import SchemaForge.Toml.Basic

/-! The rule tables of the built-in languages. -/

namespace SchemaForge.Target

open Toml

private def words (items : List String) : Value :=
  .array (items.map .string)

def cTable : Table := [
  ("language", .table [
    ("name", .string "c"),
    ("extension", .string ".h"),
    ("namespace_file_stem", .string "_namespace"),
    ("has_standard_namespace_files", .boolean false),
    ("enable_stropping", .boolean true),
    ("omit_serialization_support", .boolean false),
    ("support_namespace", words ["dsdlgen", "support"])]),
  ("identifiers", .table [
    ("stropping_prefix", .string "_"),
    ("stropping_suffix", .string ""),
    ("encoding_prefix", .string "ZX"),
    ("unique_name_affix", .string "_"),
    ("enforce_c_prefix_rules", .boolean true),
    ("encode_double_underscores", .boolean false),
    ("reserved_identifiers", words [
      "asm", "auto", "break", "case", "char", "const", "continue", "default", "defined", "do",
      "double", "error", "else", "elif", "endif", "enum", "extern", "float", "for", "fortran",
      "goto", "if", "ifdef", "ifndef", "include", "inline", "int", "line", "long", "pragma",
      "register", "restrict", "return", "short", "signed", "sizeof", "static", "struct", "switch",
      "typedef", "undef", "union", "unsigned", "void", "volatile", "while", "_Alignas", "_Alignof",
      "_Atomic", "_Bool", "_Complex", "_Generic", "_Imaginary", "_Noreturn", "_Pragma",
      "_Static_assert", "_Thread_local"]),
    ("reserved_patterns", words [
      "^(is|to|str|mem|wcs|atomic_|cnd_|mtx_|thrd_|tss_|memory_|memory_order_)[a-z]",
      "^u?int[a-zA-Z_0-9]*_t", "^E[A-Z0-9]+", "^FE_[A-Z]", "^U?INT[a-zA-Z_0-9]*_(MAX|MIN|C)",
      "^(PRI|SCN)[a-zX]", "^LC_[A-Z]", "^SIG_?[A-Z]", "^TIME_[A-Z]", "^ATOMIC_[A-Z]"])]),
  ("named_types", .table [
    ("bool", .string "bool"),
    ("int8", .string "int8_t"),
    ("int16", .string "int16_t"),
    ("int32", .string "int32_t"),
    ("int64", .string "int64_t"),
    ("uint8", .string "uint8_t"),
    ("uint16", .string "uint16_t"),
    ("uint32", .string "uint32_t"),
    ("uint64", .string "uint64_t"),
    ("float16", .string "float"),
    ("float32", .string "float"),
    ("float64", .string "double")]),
  ("named_values", .table [
    ("true", .string "true"),
    ("false", .string "false"),
    ("null", .string "NULL")]),
  ("options", .table [
    ("limit_empty_lines", .integer 1),
    ("trim_trailing_whitespace", .boolean true),
    ("prefer_system_includes", .boolean false),
    ("std_includes", words ["stdint.h", "stdbool.h", "stdlib.h"])])]

def cppTable : Table := [
  ("language", .table [
    ("name", .string "cpp"),
    ("extension", .string ".hpp"),
    ("namespace_file_stem", .string "_namespace"),
    ("has_standard_namespace_files", .boolean false),
    ("enable_stropping", .boolean true),
    ("omit_serialization_support", .boolean false),
    ("support_namespace", words ["dsdlgen", "support"])]),
  ("identifiers", .table [
    ("stropping_prefix", .string "_"),
    ("stropping_suffix", .string ""),
    ("encoding_prefix", .string "ZX"),
    ("unique_name_affix", .string "_"),
    ("enforce_c_prefix_rules", .boolean true),
    ("encode_double_underscores", .boolean true),
    ("reserved_identifiers", words [
      "asm", "auto", "break", "case", "char", "const", "continue", "default", "defined", "do",
      "double", "error", "else", "elif", "endif", "enum", "extern", "float", "for", "fortran",
      "goto", "if", "ifdef", "ifndef", "include", "inline", "int", "line", "long", "pragma",
      "register", "restrict", "return", "short", "signed", "sizeof", "static", "struct", "switch",
      "typedef", "undef", "union", "unsigned", "void", "volatile", "while", "_Alignas", "_Alignof",
      "_Atomic", "_Bool", "_Complex", "_Generic", "_Imaginary", "_Noreturn", "_Pragma",
      "_Static_assert", "_Thread_local", "alignas", "alignof", "and", "and_eq", "atomic_cancel",
      "atomic_commit", "atomic_noexcept", "bitand", "bitor", "bool", "catch", "char8_t",
      "char16_t", "char32_t", "class", "compl", "concept", "consteval", "constexpr", "constinit",
      "const_cast", "co_await", "co_return", "co_yield", "decltype", "define", "delete",
      "dynamic_cast", "explicit", "export", "false", "final", "friend", "import", "module",
      "mutable", "namespace", "new", "noexcept", "not", "not_eq", "nullptr", "operator", "or",
      "or_eq", "override", "private", "protected", "public", "reflexpr", "reinterpret_cast",
      "requires", "static_assert", "static_cast", "synchronized", "template", "this",
      "thread_local", "throw", "transaction_safe", "transaction_safe_dynamic", "true", "try",
      "typeid", "typename", "using", "virtual", "wchar_t", "xor", "xor_eq", "__has_include",
      "__has_cpp_attribute"]),
    ("reserved_patterns", words [
      "^(is|to|str|mem|wcs|atomic_|cnd_|mtx_|thrd_|tss_|memory_|memory_order_)[a-z]",
      "^u?int[a-zA-Z_0-9]*_t", "^E[A-Z0-9]+", "^FE_[A-Z]", "^U?INT[a-zA-Z_0-9]*_(MAX|MIN|C)",
      "^(PRI|SCN)[a-zX]", "^LC_[A-Z]", "^SIG_?[A-Z]", "^TIME_[A-Z]", "^ATOMIC_[A-Z]"])]),
  ("named_types", .table [
    ("bool", .string "bool"),
    ("int8", .string "std::int8_t"),
    ("int16", .string "std::int16_t"),
    ("int32", .string "std::int32_t"),
    ("int64", .string "std::int64_t"),
    ("uint8", .string "std::uint8_t"),
    ("uint16", .string "std::uint16_t"),
    ("uint32", .string "std::uint32_t"),
    ("uint64", .string "std::uint64_t"),
    ("float16", .string "float"),
    ("float32", .string "float"),
    ("float64", .string "double")]),
  ("named_values", .table [
    ("true", .string "true"),
    ("false", .string "false"),
    ("null", .string "nullptr")]),
  ("options", .table [
    ("limit_empty_lines", .integer 1),
    ("trim_trailing_whitespace", .boolean true),
    ("prefer_system_includes", .boolean false),
    ("std_includes", words ["cstdint", "array"])])]

def pythonTable : Table := [
  ("language", .table [
    ("name", .string "py"),
    ("extension", .string ".py"),
    ("namespace_file_stem", .string "__init__"),
    ("has_standard_namespace_files", .boolean true),
    ("enable_stropping", .boolean true),
    ("omit_serialization_support", .boolean true),
    ("support_namespace", words ["dsdlgen", "support"])]),
  ("identifiers", .table [
    ("stropping_prefix", .string ""),
    ("stropping_suffix", .string "_"),
    ("encoding_prefix", .string "ZX"),
    ("unique_name_affix", .string "_"),
    ("enforce_c_prefix_rules", .boolean false),
    ("encode_double_underscores", .boolean false),
    ("reserved_identifiers", words [
      "False", "None", "True", "and", "as", "assert", "async", "await", "break", "class",
      "continue", "def", "del", "elif", "else", "except", "finally", "for", "from", "global", "if",
      "import", "in", "is", "lambda", "nonlocal", "not", "or", "pass", "raise", "return", "try",
      "while", "with", "yield", "print", "self", "type", "object", "id"]),
    ("reserved_patterns", words ["^__.+__$"])]),
  ("named_types", .table [
    ("bool", .string "bool"),
    ("int8", .string "int"),
    ("int16", .string "int"),
    ("int32", .string "int"),
    ("int64", .string "int"),
    ("uint8", .string "int"),
    ("uint16", .string "int"),
    ("uint32", .string "int"),
    ("uint64", .string "int"),
    ("float16", .string "float"),
    ("float32", .string "float"),
    ("float64", .string "float")]),
  ("named_values", .table [
    ("true", .string "True"),
    ("false", .string "False"),
    ("null", .string "None")]),
  ("options", .table [
    ("limit_empty_lines", .integer 2),
    ("trim_trailing_whitespace", .boolean true)])]

def javaScriptTable : Table := [
  ("language", .table [
    ("name", .string "js"),
    ("extension", .string ".js"),
    ("namespace_file_stem", .string "index"),
    ("has_standard_namespace_files", .boolean false),
    ("enable_stropping", .boolean true),
    ("omit_serialization_support", .boolean false),
    ("support_namespace", words ["dsdlgen", "support"])]),
  ("identifiers", .table [
    ("stropping_prefix", .string "_"),
    ("stropping_suffix", .string ""),
    ("encoding_prefix", .string "ZX"),
    ("unique_name_affix", .string "_"),
    ("enforce_c_prefix_rules", .boolean false),
    ("encode_double_underscores", .boolean false),
    ("reserved_identifiers", words [
      "await", "break", "case", "catch", "class", "const", "continue", "debugger", "default",
      "delete", "do", "else", "enum", "export", "extends", "false", "finally", "for", "function",
      "if", "implements", "import", "in", "instanceof", "interface", "let", "new", "null",
      "package", "private", "protected", "public", "return", "static", "super", "switch", "this",
      "throw", "true", "try", "typeof", "var", "void", "while", "with", "yield"]),
    ("reserved_patterns", words [])]),
  ("named_values", .table [
    ("true", .string "true"),
    ("false", .string "false"),
    ("null", .string "null")]),
  ("options", .table [
    ("trim_trailing_whitespace", .boolean true)])]

end SchemaForge.Target
