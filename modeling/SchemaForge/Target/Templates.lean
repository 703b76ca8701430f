/-! The templates of the built-in languages. They are written with guillemets: double ones stand
for the braces of a tag, single ones for a brace of the generated text. -/

namespace SchemaForge.Target

private def brace (c : Char) : List Char :=
  if c = '«' then ['\x7b', '\x7b']
  else if c = '»' then ['\x7d', '\x7d']
  else if c = '‹' then ['\x7b']
  else if c = '›' then ['\x7d']
  else [c]

def templateText (lines : List String) : String :=
  String.ofList (lines.flatMap fun line => line.toList.flatMap brace ++ ['\n'])

def cCompositeType : String := templateText [
  "«!-- Header for a structure or union. --»",
  "/*",
  " * «T.full_name» version «T.version.major».«T.version.minor»",
  " * Generated by dsdlgen «ctx.generator_version». Do not edit.",
  "«#if ctx.timestamp»",
  " * Generated at «ctx.timestamp».",
  "«/if»",
  " */",
  "",
  "#ifndef «macrofy T.full_name»_«T.version.major»_«T.version.minor»_INCLUDED_",
  "#define «macrofy T.full_name»_«T.version.major»_«T.version.minor»_INCLUDED_",
  "",
  "«#each includes»",
  "#include «this»",
  "«/each»",
  "",
  "#ifdef __cplusplus",
  "extern \"C\" ‹",
  "#endif",
  "",
  "«#if T.deprecated»",
  "#warning \"«T.full_name».«T.version.major».«T.version.minor» is deprecated\"",
  "",
  "«/if»",
  "«#each T.constants»",
  "#define «@root.T.type_name»_«id name» ((«type_name») «value»)",
  "«/each»",
  "",
  "",
  "typedef struct",
  "‹",
  "«#if T.is_union»",
  "    uint8_t «unique_name \"tag\"»;",
  "    union",
  "    ‹",
  "«#each T.fields»",
  "        «type_name» «id name»;",
  "«/each»",
  "    ›;",
  "«else»",
  "«#each T.fields»",
  "«#if is_padding»",
  "«else if is_variable_length»",
  "    struct",
  "    ‹",
  "        «type_name» elements[«capacity»];",
  "        size_t count;",
  "    › «id name»;",
  "«else if is_array»",
  "    «type_name» «id name»[«capacity»];",
  "«else»",
  "    «type_name» «id name»;",
  "«/if»",
  "«/each»",
  "«/if»",
  "› «T.type_name»;",
  "",
  "#ifdef __cplusplus",
  "›",
  "#endif",
  "",
  "#endif"]

def cServiceType : String := templateText [
  "«!-- Header for a service: request and response live in the same file. --»",
  "/*",
  " * «T.full_name» version «T.version.major».«T.version.minor» (service)",
  " * Generated by dsdlgen «ctx.generator_version». Do not edit.",
  "«#if ctx.timestamp»",
  " * Generated at «ctx.timestamp».",
  "«/if»",
  " */",
  "",
  "#ifndef «macrofy T.full_name»_«T.version.major»_«T.version.minor»_INCLUDED_",
  "#define «macrofy T.full_name»_«T.version.major»_«T.version.minor»_INCLUDED_",
  "",
  "«#each includes»",
  "#include «this»",
  "«/each»",
  "",
  "#ifdef __cplusplus",
  "extern \"C\" ‹",
  "#endif",
  "",
  "«#each T.request.constants»",
  "#define «@root.T.request.type_name»_«id name» ((«type_name») «value»)",
  "«/each»",
  "",
  "typedef struct",
  "‹",
  "«#each T.request.fields»",
  "«#unless is_padding»",
  "«#if is_array»",
  "    «type_name» «id name»[«capacity»];",
  "«else»",
  "    «type_name» «id name»;",
  "«/if»",
  "«/unless»",
  "«/each»",
  "    uint8_t «unique_name \"reserved\"»;",
  "› «T.request.type_name»;",
  "",
  "«#each T.response.constants»",
  "#define «@root.T.response.type_name»_«id name» ((«type_name») «value»)",
  "«/each»",
  "",
  "typedef struct",
  "‹",
  "«#each T.response.fields»",
  "«#unless is_padding»",
  "«#if is_array»",
  "    «type_name» «id name»[«capacity»];",
  "«else»",
  "    «type_name» «id name»;",
  "«/if»",
  "«/unless»",
  "«/each»",
  "    uint8_t «unique_name \"reserved\"»;",
  "› «T.response.type_name»;",
  "",
  "#define «T.type_name»_REQUEST_TYPE «T.request.type_name»",
  "#define «T.type_name»_RESPONSE_TYPE «T.response.type_name»",
  "",
  "#ifdef __cplusplus",
  "›",
  "#endif",
  "",
  "#endif"]

def cNamespace : String := templateText [
  "/*",
  " * Namespace «N.full_name»",
  " * Generated by dsdlgen «ctx.generator_version». Do not edit.",
  " */",
  "",
  "#ifndef «macrofy N.full_name»_NAMESPACE_INCLUDED_",
  "#define «macrofy N.full_name»_NAMESPACE_INCLUDED_",
  "",
  "«#each N.types»",
  "#include \"«file_name»\"",
  "«/each»",
  "",
  "#endif"]

def cSerialization : String := templateText [
  "/*",
  " * Serialization support for «language.name» types generated by dsdlgen «ctx.generator_version».",
  " * Do not edit.",
  " */",
  "",
  "#ifndef DSDLGEN_SUPPORT_SERIALIZATION_INCLUDED_",
  "#define DSDLGEN_SUPPORT_SERIALIZATION_INCLUDED_",
  "",
  "#include <stdint.h>",
  "#include <stddef.h>",
  "#include <string.h>",
  "",
  "#define DSDLGEN_SUCCESS 0",
  "#define DSDLGEN_ERROR_INVALID_ARGUMENT 2",
  "#define DSDLGEN_ERROR_SERIALIZATION_BUFFER_TOO_SMALL 3",
  "",
  "static inline void dsdlgen_copy_bits(uint8_t* const dst, const size_t dst_offset_bits,",
  "                                     const uint8_t* const src, const size_t src_offset_bits,",
  "                                     const size_t length_bits)",
  "‹",
  "    for (size_t i = 0; i < length_bits; ++i)",
  "    ‹",
  "        const size_t s = src_offset_bits + i;",
  "        const size_t d = dst_offset_bits + i;",
  "        const uint8_t bit = (uint8_t)((src[s / 8U] >> (s % 8U)) & 1U);",
  "        dst[d / 8U] = (uint8_t)((dst[d / 8U] & ~(1U << (d % 8U))) | (bit << (d % 8U)));",
  "    ›",
  "›",
  "",
  "#endif"]

def cppCompositeType : String := templateText [
  "«!-- Header for any composite type. --»",
  "//",
  "// «T.full_name» version «T.version.major».«T.version.minor»",
  "// Generated by dsdlgen «ctx.generator_version». Do not edit.",
  "//",
  "",
  "#ifndef «macrofy T.full_name»_«T.version.major»_«T.version.minor»_HPP_INCLUDED",
  "#define «macrofy T.full_name»_«T.version.major»_«T.version.minor»_HPP_INCLUDED",
  "",
  "«#each includes»",
  "#include «this»",
  "«/each»",
  "",
  "«#each T.namespace_components»",
  "namespace «id this»",
  "‹",
  "«/each»",
  "",
  "struct «#if T.deprecated»[[deprecated]] «/if»«T.local_name»",
  "‹",
  "«#each T.constants»",
  "    static constexpr «qualified_type_name» «id name» = «value»;",
  "«/each»",
  "«#each T.fields»",
  "«#if is_padding»",
  "«else if is_variable_length»",
  "    dsdlgen::support::VariableLengthArray<«qualified_type_name», «capacity»> «id name»;",
  "«else if is_array»",
  "    std::array<«qualified_type_name», «capacity»> «id name»‹›;",
  "«else»",
  "    «qualified_type_name» «id name»‹›;",
  "«/if»",
  "«/each»",
  "›;",
  "",
  "«#each T.namespace_components»",
  "›",
  "«/each»",
  "",
  "#endif"]

def cppNamespace : String := templateText [
  "//",
  "// Namespace «N.full_name»",
  "// Generated by dsdlgen «ctx.generator_version». Do not edit.",
  "//",
  "",
  "#pragma once",
  "",
  "«#each N.types»",
  "#include \"«file_name»\"",
  "«/each»"]

def cppSerialization : String := templateText [
  "//",
  "// Serialization support for «language.name» types generated by dsdlgen «ctx.generator_version».",
  "// Do not edit.",
  "//",
  "",
  "#pragma once",
  "",
  "#include <cstddef>",
  "#include <cstdint>",
  "#include <array>",
  "",
  "namespace dsdlgen",
  "‹",
  "namespace support",
  "‹",
  "",
  "template <typename T, std::size_t Capacity>",
  "class VariableLengthArray",
  "‹",
  "public:",
  "    std::size_t size() const noexcept ‹ return size_; ›",
  "    constexpr std::size_t capacity() const noexcept ‹ return Capacity; ›",
  "",
  "    bool push_back(const T& value)",
  "    ‹",
  "        if (size_ >= Capacity)",
  "        ‹",
  "            return false;",
  "        ›",
  "        data_[size_++] = value;",
  "        return true;",
  "    ›",
  "",
  "    const T& operator[](std::size_t index) const ‹ return data_[index]; ›",
  "",
  "private:",
  "    std::array<T, Capacity> data_‹›;",
  "    std::size_t size_ = 0;",
  "›;",
  "",
  "›",
  "›"]

def pythonCompositeType : String := templateText [
  "#",
  "# «T.full_name» version «T.version.major».«T.version.minor»",
  "# Generated by dsdlgen «ctx.generator_version». Do not edit.",
  "#",
  "",
  "import dataclasses",
  "",
  "",
  "@dataclasses.dataclass",
  "class «id T.short_name»_«T.version.major»_«T.version.minor»:",
  "«#each T.constants»",
  "    «id name» = «value»",
  "«/each»",
  "«#each T.fields»",
  "«#unless is_padding»",
  "«#if is_array»",
  "    «id (snake_case name)»: list = dataclasses.field(default_factory=list)",
  "«else»",
  "    «id (snake_case name)»: «type_name» = None",
  "«/if»",
  "«/unless»",
  "«/each»",
  "«#unless T.fields»",
  "    pass",
  "«/unless»"]

def pythonServiceType : String := templateText [
  "#",
  "# «T.full_name» version «T.version.major».«T.version.minor» (service)",
  "# Generated by dsdlgen «ctx.generator_version». Do not edit.",
  "#",
  "",
  "import dataclasses",
  "",
  "",
  "class «id T.short_name»_«T.version.major»_«T.version.minor»:",
  "    @dataclasses.dataclass",
  "    class Request:",
  "«#each T.request.constants»",
  "        «id name» = «value»",
  "«/each»",
  "«#each T.request.fields»",
  "«#unless is_padding»",
  "        «id (snake_case name)»: «#if is_array»list = dataclasses.field(default_factory=list)«else»«type_name» = None«/if»",
  "«/unless»",
  "«/each»",
  "«#unless T.request.fields»",
  "        pass",
  "«/unless»",
  "",
  "    @dataclasses.dataclass",
  "    class Response:",
  "«#each T.response.constants»",
  "        «id name» = «value»",
  "«/each»",
  "«#each T.response.fields»",
  "«#unless is_padding»",
  "        «id (snake_case name)»: «#if is_array»list = dataclasses.field(default_factory=list)«else»«type_name» = None«/if»",
  "«/unless»",
  "«/each»",
  "«#unless T.response.fields»",
  "        pass",
  "«/unless»"]

def pythonNamespace : String := templateText [
  "#",
  "# Namespace «N.full_name»",
  "# Generated by dsdlgen «ctx.generator_version». Do not edit.",
  "#",
  "",
  "«#each N.types»",
  "from .«stem» import «stem» as «stem»",
  "«/each»"]

def javaScriptSerializableType : String := templateText [
  "// «T.full_name» version «T.version.major».«T.version.minor»",
  "// Generated by dsdlgen «ctx.generator_version». Do not edit.",
  "",
  "export const «id T.short_name» = ‹",
  "    \"fullName\": \"«T.full_name»\",",
  "    \"version\": ‹ \"major\": «T.version.major», \"minor\": «T.version.minor» ›,",
  "    \"kind\": \"«T.kind»\",",
  "    \"deprecated\": «#if T.deprecated»true«else»false«/if»,",
  "    \"fields\": [",
  "«#each T.fields»",
  "        ‹ \"name\": \"«name»\", \"type\": \"«type_name»\" ›,",
  "«/each»",
  "    ],",
  "›;"]

def javaScriptNamespace : String := templateText [
  "// Namespace «N.full_name»",
  "// Generated by dsdlgen «ctx.generator_version». Do not edit.",
  "",
  "«#each N.types»",
  "export * from \"./«file_name»\";",
  "«/each»"]

end SchemaForge.Target
