import SchemaForge.Proofs.Template.Trees
import SchemaForge.Target.Templates

/-! The Python templates for a structure or union and for a namespace, as the trees that they are
parsed to. -/

namespace SchemaForge

namespace Template

def pythonTop : List Node := [
  textOf "#\n# ", valueOf ["T", "full_name"], textOf " version ",
  valueOf ["T", "version", "major"], textOf ".", valueOf ["T", "version", "minor"],
  textOf "\n# Generated by dsdlgen ", valueOf ["ctx", "generator_version"],
  textOf (". Do not edit.\n#\n\nimport dataclasses\n\n\n@dataclasses.dataclass\n" ++ "class ")]

def pythonClass : List Node := [
  helped "id" ["T", "short_name"], textOf "_", valueOf ["T", "version", "major"], textOf "_",
  valueOf ["T", "version", "minor"], textOf ":\n"]

def pythonConstant : List Node := [
  textOf "    ", helped "id" ["name"], textOf " = ", valueOf ["value"], textOf "\n"]

def pythonArray : List Node := [
  textOf "    ", helpedTwice "id" "snake_case" ["name"],
  textOf ": list = dataclasses.field(default_factory=list)\n"]

def pythonSingle : List Node := [
  textOf "    ", helpedTwice "id" "snake_case" ["name"], textOf ": ", valueOf ["type_name"],
  textOf " = None\n"]

def pythonField : List Node := [
  textOf "",
  unlessSo ["is_padding"] [
    textOf "", ifSo ["is_array"] true pythonArray (some pythonSingle), textOf ""],
  textOf ""]

def pythonBody : List Node := [
  eachOf ["T", "constants"] pythonConstant, textOf "", eachOf ["T", "fields"] pythonField,
  textOf "", unlessSo ["T", "fields"] [textOf "    pass\n"], textOf ""]

def pythonTypeTree : List Node :=
  pythonTop ++ (pythonClass ++ pythonBody)

def pythonSpaceTree : List Node := [
  textOf "#\n# Namespace ", valueOf ["N", "full_name"], textOf "\n# Generated by dsdlgen ",
  valueOf ["ctx", "generator_version"], textOf ". Do not edit.\n#\n\n",
  eachOf ["N", "types"] [
    textOf "from .", valueOf ["stem"], textOf " import ", valueOf ["stem"], textOf " as ",
    valueOf ["stem"], textOf "\n"],
  textOf ""]

theorem parse_pythonCompositeType : parse Target.pythonCompositeType = some pythonTypeTree :=
  parse_of_allAgree rfl (by decide +kernel)

theorem parse_pythonNamespace : parse Target.pythonNamespace = some pythonSpaceTree :=
  parse_of_allAgree rfl (by decide +kernel)

end Template

end SchemaForge
