import SchemaForge.Proofs.Template.Trees
import SchemaForge.Target.Templates

/-! The template for the C++ header of a type, as the tree that it is parsed to. -/

namespace SchemaForge

namespace Template

def cppGuard : List Node := [
  helped "macrofy" ["T", "full_name"], textOf "_", valueOf ["T", "version", "major"], textOf "_",
  valueOf ["T", "version", "minor"]]

def cppTop : List Node := [
  textOf "//\n// ", valueOf ["T", "full_name"], textOf " version ",
  valueOf ["T", "version", "major"], textOf ".", valueOf ["T", "version", "minor"],
  textOf "\n// Generated by dsdlgen ", valueOf ["ctx", "generator_version"],
  textOf ". Do not edit.\n//\n\n#ifndef "] ++ cppGuard ++ [textOf "_HPP_INCLUDED\n#define "] ++
  cppGuard ++ [textOf "_HPP_INCLUDED\n\n",
  eachOf ["includes"] [textOf "#include ", valueOf [], textOf "\n"], textOf "\n"]

def cppOpening : List Node := [
  eachOf ["T", "namespace_components"] [textOf "namespace ", helped "id" [], textOf "\n\x7b\n"],
  textOf "\nstruct ", ifSo ["T", "deprecated"] false [textOf "[[deprecated]] "] none,
  valueOf ["T", "local_name"], textOf "\n\x7b\n"]

def cppConstant : List Node := [
  textOf "    static constexpr ", valueOf ["qualified_type_name"], textOf " ",
  helped "id" ["name"], textOf " = ", valueOf ["value"], textOf ";\n"]

def cppConstants : List Node := [eachOf ["T", "constants"] cppConstant, textOf ""]

def cppArray (container ending : String) : List Node := [
  textOf container, valueOf ["qualified_type_name"], textOf ", ", valueOf ["capacity"], textOf "> ",
  helped "id" ["name"], textOf ending]

def cppSingle : List Node := [
  textOf "    ", valueOf ["qualified_type_name"], textOf " ", helped "id" ["name"],
  textOf "\x7b\x7d;\n"]

def cppField : List Node := [
  ifSo ["is_padding"] true [textOf ""] (some [
    ifSo ["is_variable_length"] true
      (cppArray "    dsdlgen::support::VariableLengthArray<" ";\n") (some [
    ifSo ["is_array"] true (cppArray "    std::array<" "\x7b\x7d;\n") (some cppSingle)])])]

def cppFields : List Node := [
  eachOf ["T", "fields"] (textOf "" :: cppField ++ [textOf ""])]

def cppClosing : List Node := [
  textOf "\x7d;\n\n", eachOf ["T", "namespace_components"] [textOf "\x7d\n"],
  textOf "\n#endif\n"]

def cppTree : List Node :=
  cppTop ++ (cppOpening ++ (cppConstants ++ (cppFields ++ cppClosing)))

theorem parse_cppCompositeType : parse Target.cppCompositeType = some cppTree :=
  parse_of_allAgree rfl (by decide +kernel)

end Template

end SchemaForge
