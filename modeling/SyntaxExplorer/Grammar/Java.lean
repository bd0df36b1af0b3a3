import SyntaxExplorer.Grammar.Rule
import SyntaxExplorer.Text.CharacterClass
/-!
The grammar of Java.  Statements may stand at the top of a text, and words that became keywords late
are still identifiers where no keyword fits.
-/

namespace SyntaxExplorer.Grammar.Java

open Lexical Rule

/-! How strongly operators bind, the weakest first. -/

def assignLevel : Precedence := .level 1
def declarationLevel : Precedence := .level 2
def ternaryLevel : Precedence := .level 3
def orLevel : Precedence := .level 4
def andLevel : Precedence := .level 5
def bitOrLevel : Precedence := .level 6
def bitXorLevel : Precedence := .level 7
def bitAndLevel : Precedence := .level 8
def equalityLevel : Precedence := .level 9
def relationLevel : Precedence := .level 10
def shiftLevel : Precedence := .level 11
def sumLevel : Precedence := .level 12
def productLevel : Precedence := .level 13
def castLevel : Precedence := .level 14
def unaryLevel : Precedence := .level 15

/-- One or more of a rule, with a separator between. -/
def sepBy (separator : String) (inner : Rule String) : Rule String :=
  .seq inner (many (.seq (text separator) inner))

/-- Runs of digits with single underscores between. -/
def digitRuns (digit : Pattern) : Pattern :=
  .seq (.oneOrMore digit) (.many (.seq (.text "_") (.oneOrMore digit)))

/-- A decimal number without leading zeros. -/
def digits : Pattern :=
  .either (.text "0") <| .seq (.within [('1', '9')]) <| .optional <|
    .seq (.optional (.text "_")) <|
      .seq (.oneOrMore .digit)
        (.many (.seq (.oneOrMore (.text "_")) (.oneOrMore .digit)))

def decimalDigits : Pattern := digitRuns .digit

def hexDigits : Pattern := digitRuns .hexDigit

def longMark : Pattern := .optional (.oneOf "lL")

def hexMark : Pattern := .either (.text "0x") (.text "0X")

def sign : Pattern := .optional (.oneOf "-+")

def exponent : Pattern := .all [.oneOf "eE", sign, decimalDigits]

def floatMark : Pattern := .oneOf "fFdD"

def blockCommentPattern : Pattern :=
  .all [.text "/*", .many (.noneOf "*"), .oneOrMore (.text "*"),
    .many (.all [.noneOf "/*", .many (.noneOf "*"), .oneOrMore (.text "*")]), .text "/"]

def escapePattern : Pattern :=
  .seq (.text "\\") <| .any [
    .one (CharSet.ofRanges [('x'.toNat, 'x'.toNat), ('u'.toNat, 'u'.toNat),
      ('0'.toNat, '7'.toNat)]).complement,
    .between 1 2 (.within [('0', '7')]),
    .seq (.text "x") (.between 2 0 .hexDigit),
    .seq (.text "u") (.between 4 0 .hexDigit),
    .all [.text "u\x7b", .oneOrMore .hexDigit, .text "\x7d"]]

def identifierPattern : Pattern :=
  .seq (.one (CharSet.ofRanges (CharacterClass.identifierStart.ranges ++
      [('_'.toNat, '_'.toNat), ('$'.toNat, '$'.toNat)])))
    (.many (.one (CharSet.ofRanges (CharacterClass.identifierPart.ranges ++
      [(0xA2, 0xA2), ('_'.toNat, '_'.toNat), ('$'.toNat, '$'.toNat)]))))

/-- An identifier, or a word that is reserved in some places only. -/
def anyIdentifier : Rule String := .any ["identifier", "_reserved_identifier"]

def typeIdentifier : Rule String := as "type_identifier" "identifier"

def annotations : Rule String := many "_annotation"

def modifiers : Rule String := optional "modifiers"

def literalRules : List (String × Rule String) := [
  ("program", many "_toplevel_statement"),
  ("_toplevel_statement", .any ["statement", "method_declaration"]),
  ("_literal",
    .any ["decimal_integer_literal", "hex_integer_literal", "octal_integer_literal",
      "binary_integer_literal", "decimal_floating_point_literal", "hex_floating_point_literal",
      "true", "false", "character_literal", "string_literal", "null_literal"]),
  ("decimal_integer_literal", pattern (.seq digits longMark)),
  ("hex_integer_literal", pattern (.all [hexMark, hexDigits, longMark])),
  ("octal_integer_literal",
    pattern (.all [.any [.text "0o", .text "0O", .text "0"], digitRuns (.within [('0', '7')]),
      longMark])),
  ("binary_integer_literal",
    pattern (.all [.either (.text "0b") (.text "0B"), digitRuns (.within [('0', '1')]),
      longMark])),
  ("decimal_floating_point_literal", pattern (.any [
    .all [decimalDigits, .text ".", .optional decimalDigits, .optional exponent,
      .optional floatMark],
    .all [.text ".", decimalDigits, .optional exponent, .optional floatMark],
    .all [digits, exponent, .optional floatMark],
    .all [digits, .optional exponent, floatMark]])),
  ("hex_floating_point_literal", pattern (.all [
    hexMark,
    .either (.seq hexDigits (.optional (.text ".")))
      (.all [.optional hexDigits, .text ".", hexDigits]),
    .optional (.all [.oneOf "eEpP", sign, digits, .optional floatMark])])),
  ("true", text "true"),
  ("false", text "false"),
  ("character_literal", pattern (.all [
    .text "'",
    .oneOrMore (.any [.noneOf "\\'\n", .seq (.text "\\") .notLineFeed, .text "\\\n"]),
    .text "'"])),
  ("string_literal", .any ["_string_literal", "_multiline_string_literal"]),
  ("_string_literal",
    .all [text "\"", many (.any ["string_fragment", "escape_sequence", "string_interpolation"]),
      text "\""]),
  ("_multiline_string_literal",
    .all [text "\"\"\"",
      many (.any [as "multiline_string_fragment" "_multiline_string_fragment",
        "_escape_sequence", "string_interpolation"]),
      text "\"\"\""]),
  ("string_fragment", immediate 1 (.oneOrMore (.noneOf "\"\\"))),
  ("_multiline_string_fragment", .any [
    pattern (.oneOrMore (.noneOf "\"\\")),
    pattern (.seq (.text "\"") (.many (.either (.noneOf "\"\\") (.text "\\\""))))]),
  ("string_interpolation", .all [text "\\\x7b", "expression", text "\x7d"]),
  ("_escape_sequence", .any [
    .ranked (.level 2) none (immediate 0 (.seq (.text "\\") (.noneOf "bfnrts'\"\\"))),
    .ranked (.level 1) none "escape_sequence"]),
  ("escape_sequence", immediate 0 escapePattern),
  ("null_literal", text "null")]

def assignments : List String :=
  ["=", "+=", "-=", "*=", "/=", "&=", "|=", "^=", "%=", "<<=", ">>=", ">>>="]

def operators : List (String × Precedence) :=
  [(">", relationLevel), ("<", relationLevel), (">=", relationLevel), ("<=", relationLevel),
    ("==", equalityLevel), ("!=", equalityLevel), ("&&", andLevel), ("||", orLevel),
    ("+", sumLevel), ("-", sumLevel), ("*", productLevel), ("/", productLevel),
    ("&", bitAndLevel), ("|", bitOrLevel), ("^", bitXorLevel), ("%", productLevel),
    ("<<", shiftLevel), (">>", shiftLevel), (">>>", shiftLevel)]

def expressionRules : List (String × Rule String) := [
  ("expression",
    .any ["assignment_expression", "binary_expression", "instanceof_expression",
      "lambda_expression", "ternary_expression", "update_expression", "primary_expression",
      "unary_expression", "cast_expression", "switch_expression"]),
  ("cast_expression", .ranked castLevel none (.any [
    .all [text "(", .field "type" "_type", text ")", .field "value" "expression"],
    .all [text "(", sepBy "&" (.field "type" "_type"), text ")",
      .field "value" (.any ["primary_expression", "lambda_expression"])]])),
  ("assignment_expression",
    bindsRight assignLevel (.all [
      .field "left" (.any ["identifier", "_reserved_identifier", "field_access", "array_access"]),
      .field "operator" (.any (assignments.map text)),
      .field "right" "expression"])),
  ("binary_expression", .any (operators.map fun (operator, level) =>
    bindsLeft level (.all [.field "left" "expression", .field "operator" (text operator),
      .field "right" "expression"]))),
  ("instanceof_expression",
    .ranked relationLevel none (.all [
      .field "left" "expression", text "instanceof", optional (text "final"),
      .any [
        .all [.field "right" "_type", optional (.field "name" anyIdentifier)],
        .field "pattern" "record_pattern"]])),
  ("lambda_expression",
    .all [
      .field "parameters" (.any ["identifier", "formal_parameters", "inferred_parameters",
        "_reserved_identifier"]),
      text "->", .field "body" (.any ["expression", "block"])]),
  ("inferred_parameters", .all [text "(", commaSep1 anyIdentifier, text ")"]),
  ("ternary_expression",
    bindsRight ternaryLevel (.all [.field "condition" "expression", text "?",
      .field "consequence" "expression", text ":", .field "alternative" "expression"])),
  ("unary_expression", .any (["+", "-", "!", "~"].map fun operator =>
    bindsLeft unaryLevel (.all [.field "operator" (text operator),
      .field "operand" "expression"]))),
  ("update_expression",
    bindsLeft unaryLevel (.any [
      .all ["expression", text "++"], .all ["expression", text "--"],
      .all [text "++", "expression"], .all [text "--", "expression"]])),
  ("primary_expression",
    .any ["_literal", "class_literal", "this", "identifier", "_reserved_identifier",
      "parenthesized_expression", "object_creation_expression", "field_access", "array_access",
      "method_invocation", "method_reference", "array_creation_expression",
      "template_expression"]),
  ("array_creation_expression",
    groupsRight (.all [text "new", annotations, .field "type" "_simple_type",
      .any [
        .all [.field "dimensions" (.repeat1 "dimensions_expr"),
          .field "dimensions" (optional "dimensions")],
        .all [.field "dimensions" "dimensions", .field "value" "array_initializer"]]])),
  ("dimensions_expr", .all [annotations, text "[", "expression", text "]"]),
  ("parenthesized_expression", .all [text "(", "expression", text ")"]),
  ("class_literal", .dynamic 17 (.all ["_unannotated_type", text ".", text "class"])),
  ("object_creation_expression", .any [
    "_unqualified_object_creation_expression",
    .all ["primary_expression", text ".", "_unqualified_object_creation_expression"]]),
  ("_unqualified_object_creation_expression",
    groupsRight (.all [text "new",
      .any [.all [annotations, .field "type_arguments" "type_arguments", annotations],
        annotations],
      .field "type" "_simple_type", .field "arguments" "argument_list",
      optional "class_body"])),
  ("field_access",
    .all [.field "object" (.any ["primary_expression", "super"]),
      optional (.all [text ".", "super"]), text ".",
      .field "field" (.any ["identifier", "_reserved_identifier", "this"])]),
  ("template_expression",
    .all [.field "template_processor" "primary_expression", text ".",
      .field "template_argument" "string_literal"]),
  ("array_access",
    .all [.field "array" "primary_expression", text "[", .field "index" "expression",
      text "]"]),
  ("method_invocation",
    .all [
      .any [
        .field "name" anyIdentifier,
        .all [.field "object" (.any ["primary_expression", "super"]), text ".",
          optional (.all ["super", text "."]),
          .field "type_arguments" (optional "type_arguments"), .field "name" anyIdentifier]],
      .field "arguments" "argument_list"]),
  ("argument_list", .all [text "(", commaSep "expression", text ")"]),
  ("method_reference",
    .all [.any ["_type", "primary_expression", "super"], text "::",
      optional "type_arguments", .any [text "new", "identifier"]]),
  ("type_arguments", .all [text "<", commaSep (.any ["_type", "wildcard"]), text ">"]),
  ("wildcard", .all [annotations, text "?", optional "_wildcard_bounds"]),
  ("_wildcard_bounds", .any [.all [text "extends", "_type"], .all ["super", "_type"]]),
  ("dimensions", groupsRight (.repeat1 (.all [annotations, text "[", text "]"]))),
  ("switch_expression",
    .all [text "switch", .field "condition" "parenthesized_expression",
      .field "body" "switch_block"]),
  ("switch_block",
    .all [text "\x7b", .any [many "switch_block_statement_group", many "switch_rule"],
      text "\x7d"]),
  ("switch_block_statement_group",
    groupsLeft (.all [.repeat1 (.all ["switch_label", text ":"]), many "statement"])),
  ("switch_rule",
    .all ["switch_label", text "->",
      .any ["expression_statement", "throw_statement", "block"]]),
  ("switch_label", .any [
    .all [text "case", .any ["pattern", commaSep1 "expression"], optional "guard"],
    text "default"]),
  ("pattern", .any ["type_pattern", "record_pattern"]),
  ("type_pattern", .all ["_unannotated_type", anyIdentifier]),
  ("record_pattern",
    .all [.any ["identifier", "_reserved_identifier", "generic_type"], "record_pattern_body"]),
  ("record_pattern_body",
    .all [text "(", commaSep (.any ["record_pattern_component", "record_pattern"]), text ")"]),
  ("record_pattern_component",
    .any ["underscore_pattern", .all ["_unannotated_type", anyIdentifier]]),
  ("underscore_pattern", text "_"),
  ("guard", .all [text "when", "expression"])]

def statementRules : List (String × Rule String) := [
  ("statement",
    .any ["declaration", "expression_statement", "labeled_statement", "if_statement",
      "while_statement", "for_statement", "enhanced_for_statement", "block", text ";",
      "assert_statement", "do_statement", "break_statement", "continue_statement",
      "return_statement", "yield_statement", "switch_expression", "synchronized_statement",
      "local_variable_declaration", "throw_statement", "try_statement",
      "try_with_resources_statement"]),
  ("block", .all [text "\x7b", many "statement", text "\x7d"]),
  ("expression_statement", .all ["expression", text ";"]),
  ("labeled_statement", .all ["identifier", text ":", "statement"]),
  ("assert_statement", .any [
    .all [text "assert", "expression", text ";"],
    .all [text "assert", "expression", text ":", "expression", text ";"]]),
  ("do_statement",
    .all [text "do", .field "body" "statement", text "while",
      .field "condition" "parenthesized_expression", text ";"]),
  ("break_statement", .all [text "break", optional "identifier", text ";"]),
  ("continue_statement", .all [text "continue", optional "identifier", text ";"]),
  ("return_statement", .all [text "return", optional "expression", text ";"]),
  ("yield_statement", .all [text "yield", "expression", text ";"]),
  ("synchronized_statement",
    .all [text "synchronized", "parenthesized_expression", .field "body" "block"]),
  ("throw_statement", .all [text "throw", "expression", text ";"]),
  ("try_statement",
    .all [text "try", .field "body" "block",
      .any [.repeat1 "catch_clause", .all [many "catch_clause", "finally_clause"]]]),
  ("catch_clause",
    .all [text "catch", text "(", "catch_formal_parameter", text ")", .field "body" "block"]),
  ("catch_formal_parameter", .all [modifiers, "catch_type", "_variable_declarator_id"]),
  ("catch_type", sepBy "|" "_unannotated_type"),
  ("finally_clause", .all [text "finally", "block"]),
  ("try_with_resources_statement",
    .all [text "try", .field "resources" "resource_specification", .field "body" "block",
      many "catch_clause", optional "finally_clause"]),
  ("resource_specification",
    .all [text "(", sepBy ";" "resource", optional (text ";"), text ")"]),
  ("resource", .any [
    .all [modifiers, .field "type" "_unannotated_type", "_variable_declarator_id", text "=",
      .field "value" "expression"],
    "identifier", "field_access"]),
  ("if_statement",
    groupsRight (.all [text "if", .field "condition" "parenthesized_expression",
      .field "consequence" "statement",
      optional (.all [text "else", .field "alternative" "statement"])])),
  ("while_statement",
    .all [text "while", .field "condition" "parenthesized_expression",
      .field "body" "statement"]),
  ("for_statement",
    .all [text "for", text "(",
      .any [.field "init" "local_variable_declaration",
        .all [commaSep (.field "init" "expression"), text ";"]],
      .field "condition" (optional "expression"), text ";",
      commaSep (.field "update" "expression"), text ")", .field "body" "statement"]),
  ("enhanced_for_statement",
    .all [text "for", text "(", modifiers, .field "type" "_unannotated_type",
      "_variable_declarator_id", text ":", .field "value" "expression", text ")",
      .field "body" "statement"])]

def annotationRules : List (String × Rule String) := [
  ("_annotation", .any ["marker_annotation", "annotation"]),
  ("marker_annotation", .all [text "@", .field "name" "_name"]),
  ("annotation",
    .all [text "@", .field "name" "_name", .field "arguments" "annotation_argument_list"]),
  ("annotation_argument_list",
    .all [text "(", .any ["_element_value", commaSep "element_value_pair"], text ")"]),
  ("element_value_pair",
    .all [.field "key" anyIdentifier, text "=", .field "value" "_element_value"]),
  ("_element_value",
    .ranked declarationLevel none
      (.any ["expression", "element_value_array_initializer", "_annotation"])),
  ("element_value_array_initializer",
    .all [text "\x7b", commaSep "_element_value", optional (text ","), text "\x7d"])]

/-- A list of modules after a keyword. -/
def toModules : Rule String :=
  optional (.all [text "to", .field "modules" "_name",
    many (.all [text ",", .field "modules" "_name"])])

def moduleRules : List (String × Rule String) := [
  ("declaration",
    .ranked declarationLevel none (.any ["module_declaration", "package_declaration",
      "import_declaration", "class_declaration", "record_declaration", "interface_declaration",
      "annotation_type_declaration", "enum_declaration"])),
  ("module_declaration",
    .all [annotations, optional (text "open"), text "module", .field "name" "_name",
      .field "body" "module_body"]),
  ("module_body", .all [text "\x7b", many "module_directive", text "\x7d"]),
  ("module_directive",
    .any ["requires_module_directive", "exports_module_directive", "opens_module_directive",
      "uses_module_directive", "provides_module_directive"]),
  ("requires_module_directive",
    .all [text "requires", many (.field "modifiers" "requires_modifier"),
      .field "module" "_name", text ";"]),
  ("requires_modifier", .any [text "transitive", text "static"]),
  ("exports_module_directive",
    .all [text "exports", .field "package" "_name", toModules, text ";"]),
  ("opens_module_directive",
    .all [text "opens", .field "package" "_name", toModules, text ";"]),
  ("uses_module_directive", .all [text "uses", .field "type" "_name", text ";"]),
  ("provides_module_directive",
    .all [text "provides", .field "provided" "_name", text "with", "_name",
      many (.all [text ",", .field "provider" "_name"]), text ";"]),
  ("package_declaration", .all [annotations, text "package", "_name", text ";"]),
  ("import_declaration",
    .all [text "import", optional (text "static"), "_name",
      optional (.all [text ".", "asterisk"]), text ";"]),
  ("asterisk", text "*")]

def classRules : List (String × Rule String) := [
  ("enum_declaration",
    .all [modifiers, text "enum", .field "name" "identifier",
      .field "interfaces" (optional "super_interfaces"), .field "body" "enum_body"]),
  ("enum_body",
    .all [text "\x7b", commaSep "enum_constant", optional (text ","),
      optional "enum_body_declarations", text "\x7d"]),
  ("enum_body_declarations", .all [text ";", many "_class_body_declaration"]),
  ("enum_constant",
    .all [modifiers, .field "name" "identifier",
      .field "arguments" (optional "argument_list"), .field "body" (optional "class_body")]),
  ("class_declaration",
    .all [modifiers, text "class", .field "name" "identifier",
      optional (.field "type_parameters" "type_parameters"),
      optional (.field "superclass" "superclass"),
      optional (.field "interfaces" "super_interfaces"),
      optional (.field "permits" "permits"), .field "body" "class_body"]),
  ("modifiers", .repeat1 (.any ["_annotation", text "public", text "protected",
    text "private", text "abstract", text "static", text "final", text "strictfp",
    text "default", text "synchronized", text "native", text "transient", text "volatile",
    text "sealed", text "non-sealed"])),
  ("type_parameters", .all [text "<", commaSep1 "type_parameter", text ">"]),
  ("type_parameter", .all [annotations, typeIdentifier, optional "type_bound"]),
  ("type_bound", .all [text "extends", "_type", many (.all [text "&", "_type"])]),
  ("superclass", .all [text "extends", "_type"]),
  ("super_interfaces", .all [text "implements", "type_list"]),
  ("type_list", .all ["_type", many (.all [text ",", "_type"])]),
  ("permits", .all [text "permits", "type_list"]),
  ("class_body", .all [text "\x7b", many "_class_body_declaration", text "\x7d"]),
  ("_class_body_declaration",
    .any ["field_declaration", "record_declaration", "method_declaration",
      "compact_constructor_declaration", "class_declaration", "interface_declaration",
      "annotation_type_declaration", "enum_declaration", "block", "static_initializer",
      "constructor_declaration", text ";"]),
  ("static_initializer", .all [text "static", "block"]),
  ("constructor_declaration",
    .all [modifiers, "_constructor_declarator", optional "throws",
      .field "body" "constructor_body"]),
  ("_constructor_declarator",
    .all [.field "type_parameters" (optional "type_parameters"), .field "name" "identifier",
      .field "parameters" "formal_parameters"]),
  ("constructor_body",
    .all [text "\x7b", optional "explicit_constructor_invocation", many "statement",
      text "\x7d"]),
  ("explicit_constructor_invocation",
    .all [
      .any [
        .all [.field "type_arguments" (optional "type_arguments"),
          .field "constructor" (.any ["this", "super"])],
        .all [.field "object" "primary_expression", text ".",
          .field "type_arguments" (optional "type_arguments"), .field "constructor" "super"]],
      .field "arguments" "argument_list", text ";"]),
  ("_name", .any ["identifier", "_reserved_identifier", "scoped_identifier"]),
  ("scoped_identifier",
    .all [.field "scope" "_name", text ".", .field "name" anyIdentifier]),
  ("field_declaration",
    .all [modifiers, .field "type" "_unannotated_type", "_variable_declarator_list",
      text ";"]),
  ("record_declaration",
    .all [modifiers, text "record", .field "name" "identifier",
      optional (.field "type_parameters" "type_parameters"),
      .field "parameters" "formal_parameters",
      optional (.field "interfaces" "super_interfaces"), .field "body" "class_body"]),
  ("annotation_type_declaration",
    .all [modifiers, text "@interface", .field "name" "identifier",
      .field "body" "annotation_type_body"]),
  ("annotation_type_body",
    .all [text "\x7b",
      many (.any ["annotation_type_element_declaration", "constant_declaration",
        "class_declaration", "interface_declaration", "enum_declaration",
        "annotation_type_declaration", text ";"]),
      text "\x7d"]),
  ("annotation_type_element_declaration",
    .all [modifiers, .field "type" "_unannotated_type", .field "name" anyIdentifier, text "(",
      text ")", .field "dimensions" (optional "dimensions"), optional "_default_value",
      text ";"]),
  ("_default_value", .all [text "default", .field "value" "_element_value"]),
  ("interface_declaration",
    .all [modifiers, text "interface", .field "name" "identifier",
      .field "type_parameters" (optional "type_parameters"), optional "extends_interfaces",
      optional (.field "permits" "permits"), .field "body" "interface_body"]),
  ("extends_interfaces", .all [text "extends", "type_list"]),
  ("interface_body",
    .all [text "\x7b",
      many (.any ["constant_declaration", "enum_declaration", "method_declaration",
        "class_declaration", "interface_declaration", "record_declaration",
        "annotation_type_declaration", text ";"]),
      text "\x7d"]),
  ("constant_declaration",
    .all [modifiers, .field "type" "_unannotated_type", "_variable_declarator_list",
      text ";"]),
  ("_variable_declarator_list", commaSep1 (.field "declarator" "variable_declarator")),
  ("variable_declarator",
    .all ["_variable_declarator_id",
      optional (.all [text "=", .field "value" "_variable_initializer"])]),
  ("_variable_declarator_id",
    .all [.field "name" (.any ["identifier", "_reserved_identifier", "underscore_pattern"]),
      .field "dimensions" (optional "dimensions")]),
  ("_variable_initializer", .any ["expression", "array_initializer"]),
  ("array_initializer",
    .all [text "\x7b", commaSep "_variable_initializer", optional (text ","), text "\x7d"])]

def typeRules : List (String × Rule String) := [
  ("_type", .any ["_unannotated_type", "annotated_type"]),
  ("_unannotated_type", .any ["_simple_type", "array_type"]),
  ("_simple_type",
    .any ["void_type", "integral_type", "floating_point_type", "boolean_type",
      typeIdentifier, "scoped_type_identifier", "generic_type"]),
  ("annotated_type", .all [.repeat1 "_annotation", "_unannotated_type"]),
  ("scoped_type_identifier",
    .all [.any [typeIdentifier, "scoped_type_identifier", "generic_type"], text ".",
      annotations, typeIdentifier]),
  ("generic_type",
    .dynamic 10 (.all [.any [typeIdentifier, "scoped_type_identifier"], "type_arguments"])),
  ("array_type",
    .all [.field "element" "_unannotated_type", .field "dimensions" "dimensions"]),
  ("integral_type", .any (["byte", "short", "int", "long", "char"].map text)),
  ("floating_point_type", .any (["float", "double"].map text)),
  ("boolean_type", text "boolean"),
  ("void_type", text "void"),
  ("_method_header",
    .all [optional (.all [.field "type_parameters" "type_parameters", annotations]),
      .field "type" "_unannotated_type", "_method_declarator", optional "throws"]),
  ("_method_declarator",
    .all [.field "name" anyIdentifier, .field "parameters" "formal_parameters",
      .field "dimensions" (optional "dimensions")]),
  ("formal_parameters",
    .all [text "(",
      .any ["receiver_parameter",
        .all [optional (.all ["receiver_parameter", text ","]),
          commaSep (.any ["formal_parameter", "spread_parameter"])]],
      text ")"]),
  ("formal_parameter",
    .all [modifiers, .field "type" "_unannotated_type", "_variable_declarator_id"]),
  ("receiver_parameter",
    .all [annotations, "_unannotated_type", many (.all ["identifier", text "."]), "this"]),
  ("spread_parameter",
    .all [modifiers, "_unannotated_type", text "...", annotations, "variable_declarator"]),
  ("throws", .all [text "throws", commaSep1 "_type"]),
  ("local_variable_declaration",
    .all [modifiers, .field "type" "_unannotated_type", "_variable_declarator_list",
      text ";"]),
  ("method_declaration",
    .all [modifiers, "_method_header", .any [.field "body" "block", text ";"]]),
  ("compact_constructor_declaration",
    .all [modifiers, .field "name" "identifier", .field "body" "block"]),
  ("_reserved_identifier", .any [
    .ranked (.level (-3)) none (as "identifier"
      (.any (["open", "module", "record", "with", "sealed"].map text))),
    as "identifier" (text "yield")]),
  ("this", text "this"),
  ("super", text "super"),
  ("identifier", pattern identifierPattern),
  ("line_comment", pattern (.seq (.text "//") (.many .notLineFeed))),
  ("block_comment", pattern blockCommentPattern)]

def grammar : Definition where
  name := "java"
  rules := literalRules ++ expressionRules ++ statementRules ++ annotationRules ++
    moduleRules ++ classRules ++ typeRules
  extras := ["line_comment", "block_comment", pattern .blank]
  externals := []
  conflicts := [
    ["modifiers", "annotated_type", "receiver_parameter"],
    ["modifiers", "annotated_type", "module_declaration", "package_declaration"],
    ["_unannotated_type", "primary_expression", "inferred_parameters"],
    ["_unannotated_type", "primary_expression"],
    ["_unannotated_type", "primary_expression", "scoped_type_identifier"],
    ["_unannotated_type", "scoped_type_identifier"],
    ["_unannotated_type", "generic_type"],
    ["generic_type", "primary_expression"],
    ["expression", "statement"],
    ["lambda_expression", "primary_expression"],
    ["inferred_parameters", "primary_expression"],
    ["argument_list", "record_pattern_body"],
    ["yield_statement", "_reserved_identifier"]]
  orderings := []
  supertypes := ["expression", "declaration", "statement", "primary_expression", "_literal",
    "_type", "_simple_type", "_unannotated_type", "module_directive"]
  inlined := ["_name", "_simple_type", "_class_body_declaration", "_variable_initializer"]
  word := some "identifier"

end SyntaxExplorer.Grammar.Java
