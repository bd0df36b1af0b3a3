import SyntaxExplorer.Grammar.Rule
/-!
The grammar of JavaScript.  Semicolons may be left out at line ends, which the grammar's scanner
decides; templates, regular expressions and markup elements are part of the language.
-/

namespace SyntaxExplorer.Grammar.JavaScript

open Lexical Rule

/-- What separates tokens: blanks, line ends, and the space characters without a width. -/
def separator : CharSet :=
  .ofRanges [(0x09, 0x0D), (0x20, 0x20), (0xA0, 0xA0), (0x1680, 0x1680), (0x2000, 0x200A),
    (0x200B, 0x200B), (0x2028, 0x2029), (0x202F, 0x202F), (0x205F, 0x205F), (0x2060, 0x2060),
    (0x3000, 0x3000), (0xFEFF, 0xFEFF)]

/-- What no identifier holds: controls, separators and the punctuation of the language. -/
def nonIdentifier : CharSet :=
  .union separator <| .union (.ofRanges [(0, 0x1F)]) <|
    .ofString ":;\x60\"'@#.,|^&<=>+-*/\\%?!~()[]\x7b\x7d"

/-- A character that is written as its number. -/
def unicodeEscape : Pattern :=
  .either (.seq (.text "\\u") (.between 4 0 .hexDigit))
    (.all [.text "\\u\x7b", .oneOrMore .hexDigit, .text "\x7d"])

def identifierPart : Pattern := .either (.one nonIdentifier.complement) unicodeEscape

def identifierStart : Pattern :=
  .either (.one (nonIdentifier.union (.range '0' '9')).complement) unicodeEscape

/-- Digits of a class, with single underscores between. -/
def digits (digit : Pattern) : Pattern := .seq digit (.many (.seq (.optional (.text "_")) digit))

def numberPattern : Pattern :=
  let hex := .seq (.either (.text "0x") (.text "0X")) (digits .hexDigit)
  let decimal := digits .digit
  let signed := .seq (.optional (.oneOf "-+")) decimal
  let exponent := .seq (.oneOf "eE") signed
  let binary := .seq (.either (.text "0b") (.text "0B")) (digits (.within [('0', '1')]))
  let octal := .seq (.either (.text "0o") (.text "0O")) (digits (.within [('0', '7')]))
  let big := .seq (.any [hex, binary, octal, decimal]) (.text "n")
  let integer := .either (.text "0") <|
    .all [.optional (.text "0"), .within [('1', '9')],
      .optional (.seq (.optional (.text "_")) decimal)]
  .any [
    hex,
    .all [integer, .text ".", .optional decimal, .optional exponent],
    .all [.text ".", decimal, .optional exponent],
    .seq integer exponent,
    decimal,
    binary,
    octal,
    big]

/-- A comment up to the line's end, or between slashes and stars. -/
def commentPattern : Pattern :=
  .either (.seq (.text "//") (.many (.noneOf "\r\n\u2028\u2029"))) <|
    .all [.text "/*", .many (.noneOf "*"), .oneOrMore (.text "*"),
      .many (.all [.noneOf "/*", .many (.noneOf "*"), .oneOrMore (.text "*")]), .text "/"]

def escapePattern : Pattern :=
  .seq (.text "\\") <| .any [
    .one (CharSet.ofRanges [('x'.toNat, 'x'.toNat), ('u'.toNat, 'u'.toNat),
      ('0'.toNat, '7'.toNat)]).complement,
    .between 1 2 (.within [('0', '7')]),
    .seq (.text "x") (.between 2 0 .hexDigit),
    .seq (.text "u") (.between 4 0 .hexDigit),
    .all [.text "u\x7b", .oneOrMore .hexDigit, .text "\x7d"],
    .seq (.oneOf "\r?") (.oneOf "\n\u2028\u2029")]

def regexPattern : Pattern :=
  let escaped := .seq (.text "\\") .notLineFeed
  .oneOrMore <| .any [
    .all [.text "[", .many (.either escaped (.noneOf "]\n\\")), .text "]"],
    escaped,
    .noneOf "/\\[\n"]

/-- `static` and `get` on one line, before a line end. -/
def staticGet : Rule String :=
  .shownAs ⟨"static get", false⟩ <| pattern <|
    .all [.text "static", .oneOrMore .blank, .text "get", .many .blank, .text "\n"]

def decorators : Rule String := many (.field "decorator" "decorator")

def operators : List (String × String × Associativity) :=
  [("&&", "logical_and", .left), ("||", "logical_or", .left), (">>", "binary_shift", .left),
    (">>>", "binary_shift", .left), ("<<", "binary_shift", .left), ("&", "bitwise_and", .left),
    ("^", "bitwise_xor", .left), ("|", "bitwise_or", .left), ("+", "binary_plus", .left),
    ("-", "binary_plus", .left), ("*", "binary_times", .left), ("/", "binary_times", .left),
    ("%", "binary_times", .left), ("**", "binary_exp", .right), ("<", "binary_relation", .left),
    ("<=", "binary_relation", .left), ("==", "binary_equality", .left),
    ("===", "binary_equality", .left), ("!=", "binary_equality", .left),
    ("!==", "binary_equality", .left), (">=", "binary_relation", .left),
    (">", "binary_relation", .left), ("??", "ternary", .left),
    ("instanceof", "binary_relation", .left), ("in", "binary_relation", .left)]

def assignments : List String :=
  ["+=", "-=", "*=", "/=", "%=", "^=", "&=", "|=", ">>=", ">>>=", "<<=", "**=", "&&=", "||=", "??="]

def moduleRules : List (String × Rule String) := [
  ("program", .all [optional "hash_bang_line", many "statement"]),
  ("hash_bang_line", pattern (.seq (.text "#!") (.many .notLineFeed))),
  ("export_statement", .any [
    .all [text "export",
      .any [.all [text "*", "_from_clause"], .all ["namespace_export", "_from_clause"],
        .all ["export_clause", "_from_clause"], "export_clause"],
      "_semicolon"],
    .all [decorators, text "export",
      .any [.field "declaration" "declaration",
        .all [text "default",
          .any [.field "declaration" "declaration",
            .all [.field "value" "expression", "_semicolon"]]]]]]),
  ("namespace_export", .all [text "*", text "as", "_module_export_name"]),
  ("export_clause",
    .all [text "\x7b", commaSep "export_specifier", optional (text ","), text "\x7d"]),
  ("export_specifier",
    .all [.field "name" "_module_export_name",
      optional (.all [text "as", .field "alias" "_module_export_name"])]),
  ("_module_export_name", .any ["identifier", "string", text "default"]),
  ("declaration",
    .any ["function_declaration", "generator_function_declaration", "class_declaration",
      "lexical_declaration", "variable_declaration", "using_declaration"]),
  ("import", text "import"),
  ("import_statement",
    .all [text "import",
      .any [.all ["import_clause", "_from_clause"], .field "source" "string"],
      optional "import_attribute", "_semicolon"]),
  ("import_clause",
    .any ["namespace_import", "named_imports",
      .all ["identifier",
        optional (.all [text ",", .any ["namespace_import", "named_imports"]])]]),
  ("_from_clause", .all [text "from", .field "source" "string"]),
  ("namespace_import", .all [text "*", text "as", "identifier"]),
  ("named_imports",
    .all [text "\x7b", commaSep "import_specifier", optional (text ","), text "\x7d"]),
  ("import_specifier",
    .any [.field "name" "identifier",
      .all [.field "name" "_module_export_name", text "as", .field "alias" "identifier"]]),
  ("import_attribute", .all [text "with", "object"])]

def statementRules : List (String × Rule String) := [
  ("statement",
    .any ["export_statement", "import_statement", "debugger_statement", "expression_statement",
      "declaration", "statement_block", "if_statement", "switch_statement", "for_statement",
      "for_in_statement", "while_statement", "do_statement", "try_statement", "with_statement",
      "break_statement", "continue_statement", "return_statement", "throw_statement",
      "empty_statement", "labeled_statement"]),
  ("expression_statement", .all ["_expressions", "_semicolon"]),
  ("variable_declaration", .all [text "var", commaSep1 "variable_declarator", "_semicolon"]),
  ("lexical_declaration",
    .all [.field "kind" (.any [text "let", text "const"]), commaSep1 "variable_declarator",
      "_semicolon"]),
  ("using_declaration",
    .all [.field "kind" (.any [text "using", .all [text "await", text "using"]]),
      commaSep1 "variable_declarator", "_semicolon"]),
  ("variable_declarator",
    .all [.field "name" (.any [as "identifier" (text "of"), "identifier",
        "_destructuring_pattern"]),
      optional "_initializer"]),
  ("statement_block",
    groupsRight (.all [text "\x7b", many "statement", text "\x7d",
      optional "_automatic_semicolon"])),
  ("else_clause", .all [text "else", "statement"]),
  ("if_statement",
    groupsRight (.all [text "if", .field "condition" "parenthesized_expression",
      .field "consequence" "statement", optional (.field "alternative" "else_clause")])),
  ("switch_statement",
    .all [text "switch", .field "value" "parenthesized_expression", .field "body" "switch_body"]),
  ("for_statement",
    .all [text "for", text "(",
      .any [.field "initializer" (.any ["lexical_declaration", "variable_declaration"]),
        .all [.field "initializer" "_expressions", text ";"],
        .field "initializer" "empty_statement"],
      .any [.all [.field "condition" "_expressions", text ";"],
        .field "condition" "empty_statement"],
      .field "increment" (optional "_expressions"),
      text ")", .field "body" "statement"]),
  ("for_in_statement",
    .all [text "for", optional (text "await"), "_for_header", .field "body" "statement"]),
  ("_for_header",
    .all [text "(",
      .any [
        .field "left" (.any ["_lhs_expression", "parenthesized_expression"]),
        .all [.field "kind" (text "var"),
          .field "left" (.any ["identifier", "_destructuring_pattern"]),
          optional "_initializer"],
        .all [.field "kind" (.any [text "let", text "const"]),
          .field "left" (.any ["identifier", "_destructuring_pattern"]),
          optional "_automatic_semicolon"]],
      .field "operator" (.any [text "in", text "of"]),
      .field "right" "_expressions",
      text ")"]),
  ("while_statement",
    .all [text "while", .field "condition" "parenthesized_expression",
      .field "body" "statement"]),
  ("do_statement",
    groupsRight (.all [text "do", .field "body" "statement", text "while",
      .field "condition" "parenthesized_expression", optional "_semicolon"])),
  ("try_statement",
    .all [text "try", .field "body" "statement_block",
      optional (.field "handler" "catch_clause"),
      optional (.field "finalizer" "finally_clause")]),
  ("with_statement",
    .all [text "with", .field "object" "parenthesized_expression", .field "body" "statement"]),
  ("break_statement",
    .all [text "break", .field "label" (optional (as "statement_identifier" "identifier")),
      "_semicolon"]),
  ("continue_statement",
    .all [text "continue", .field "label" (optional (as "statement_identifier" "identifier")),
      "_semicolon"]),
  ("debugger_statement", .all [text "debugger", "_semicolon"]),
  ("return_statement", .all [text "return", optional "_expressions", "_semicolon"]),
  ("throw_statement", .all [text "throw", "_expressions", "_semicolon"]),
  ("empty_statement", text ";"),
  ("labeled_statement",
    .dynamic (-1) (.all [
      .field "label" (as "statement_identifier" (.any ["identifier", "_reserved_identifier"])),
      text ":", .field "body" "statement"])),
  ("switch_body",
    .all [text "\x7b", many (.any ["switch_case", "switch_default"]), text "\x7d"]),
  ("switch_case",
    .all [text "case", .field "value" "_expressions", text ":",
      .field "body" (many "statement")]),
  ("switch_default", .all [text "default", text ":", .field "body" (many "statement")]),
  ("catch_clause",
    .all [text "catch",
      optional (.all [text "(",
        .field "parameter" (.any ["identifier", "_destructuring_pattern"]), text ")"]),
      .field "body" "statement_block"]),
  ("finally_clause", .all [text "finally", .field "body" "statement_block"])]

def expressionRules : List (String × Rule String) := [
  ("parenthesized_expression", .all [text "(", "_expressions", text ")"]),
  ("_expressions", .any ["expression", "sequence_expression"]),
  ("expression",
    .any ["primary_expression", "_jsx_element", "assignment_expression",
      "augmented_assignment_expression", "await_expression", "unary_expression",
      "binary_expression", "ternary_expression", "update_expression", "new_expression",
      "yield_expression"]),
  ("primary_expression",
    .any ["subscript_expression", "member_expression", "parenthesized_expression", "_identifier",
      as "identifier" "_reserved_identifier", "this", "super", "number", "string",
      "template_string", "regex", "true", "false", "null", "object", "array",
      "function_expression", "arrow_function", "generator_function", "class", "meta_property",
      "call_expression"]),
  ("yield_expression",
    groupsRight (.all [text "yield",
      .any [.all [text "*", "expression"], optional "expression"]])),
  ("object",
    binds "object" (.all [text "\x7b",
      commaSep (optional (.any ["pair", "spread_element", "method_definition",
        as "shorthand_property_identifier" (.any ["identifier", "_reserved_identifier"])])),
      text "\x7d"])),
  ("object_pattern",
    binds "object" (.all [text "\x7b",
      commaSep (optional (.any ["pair_pattern", "rest_pattern", "object_assignment_pattern",
        as "shorthand_property_identifier_pattern"
          (.any ["identifier", "_reserved_identifier"])])),
      text "\x7d"])),
  ("assignment_pattern",
    .all [.field "left" "pattern", text "=", .field "right" "expression"]),
  ("object_assignment_pattern",
    .all [.field "left" (.any [
        as "shorthand_property_identifier_pattern" (.any ["_reserved_identifier", "identifier"]),
        "_destructuring_pattern"]),
      text "=", .field "right" "expression"]),
  ("array",
    .all [text "[", commaSep (optional (.any ["expression", "spread_element"])), text "]"]),
  ("array_pattern",
    .all [text "[", commaSep (optional (.any ["pattern", "assignment_pattern"])), text "]"])]

def markupRules : List (String × Rule String) := [
  ("_jsx_element", .any ["jsx_element", "jsx_self_closing_element"]),
  ("jsx_element",
    .all [.field "open_tag" "jsx_opening_element", many "_jsx_child",
      .field "close_tag" "jsx_closing_element"]),
  ("html_character_reference", pattern (.all [.text "&",
    .either
      (.seq (.text "#") (.either (.seq (.oneOf "xX") (.between 1 5 .hexDigit))
        (.between 1 4 .digit)))
      (.between 1 29 (.within [('A', 'Z'), ('a', 'z')])),
    .text ";"])),
  ("jsx_expression",
    .all [text "\x7b", optional (.any ["expression", "sequence_expression", "spread_element"]),
      text "\x7d"]),
  ("_jsx_child",
    .any ["jsx_text", "html_character_reference", "_jsx_element", "jsx_expression"]),
  ("jsx_opening_element",
    .dynamic (-1) (.all [text "<",
      optional (.all [.field "name" "_jsx_element_name",
        many (.field "attribute" "_jsx_attribute")]),
      text ">"])),
  ("jsx_identifier", pattern (.all [.within [('a', 'z'), ('A', 'Z'), ('_', '_'), ('$', '$')],
    .many (.within [('a', 'z'), ('A', 'Z'), ('0', '9'), ('_', '_'), ('$', '$')]), .text "-",
    .many (.within [('a', 'z'), ('A', 'Z'), ('0', '9'), ('_', '_'), ('$', '$'), ('-', '-')])])),
  ("_jsx_identifier", .any [as "identifier" "jsx_identifier", "identifier"]),
  ("nested_identifier",
    binds "member" (.all [
      .field "object" (.any ["identifier", as "member_expression" "nested_identifier"]),
      text ".", .field "property" (as "property_identifier" "identifier")])),
  ("jsx_namespace_name", .all ["_jsx_identifier", text ":", "_jsx_identifier"]),
  ("_jsx_element_name",
    .any ["_jsx_identifier", as "member_expression" "nested_identifier", "jsx_namespace_name"]),
  ("jsx_closing_element",
    .all [text "</", optional (.field "name" "_jsx_element_name"), text ">"]),
  ("jsx_self_closing_element",
    .all [text "<", .field "name" "_jsx_element_name",
      many (.field "attribute" "_jsx_attribute"), text "/>"]),
  ("_jsx_attribute", .any ["jsx_attribute", "jsx_expression"]),
  ("_jsx_attribute_name",
    .any [as "property_identifier" "_jsx_identifier", "jsx_namespace_name"]),
  ("jsx_attribute",
    .all ["_jsx_attribute_name", optional (.all [text "=", "_jsx_attribute_value"])]),
  ("_jsx_string", .any [
    .all [text "\"",
      many (.any [as "string_fragment" "unescaped_double_jsx_string_fragment",
        "html_character_reference"]),
      text "\""],
    .all [text "'",
      many (.any [as "string_fragment" "unescaped_single_jsx_string_fragment",
        "html_character_reference"]),
      text "'"]]),
  ("unescaped_double_jsx_string_fragment", immediate 1 (.oneOrMore (.either (.noneOf "\"&")
    (.seq (.text "&") (.one (CharSet.ofRanges
      [('#'.toNat, '#'.toNat), ('A'.toNat, 'Z'.toNat), ('a'.toNat, 'z'.toNat)]).complement))))),
  ("unescaped_single_jsx_string_fragment", immediate 1 (.oneOrMore (.either (.noneOf "'&")
    (.seq (.text "&") (.one (CharSet.ofRanges
      [('#'.toNat, '#'.toNat), ('A'.toNat, 'Z'.toNat), ('a'.toNat, 'z'.toNat)]).complement))))),
  ("_jsx_attribute_value",
    .any [as "string" "_jsx_string", "jsx_expression", "_jsx_element"])]

def functionRules : List (String × Rule String) := [
  ("class",
    binds "literal" (.all [decorators, text "class", .field "name" (optional "identifier"),
      optional "class_heritage", .field "body" "class_body"])),
  ("class_declaration",
    binds "declare" (.all [decorators, text "class", .field "name" "identifier",
      optional "class_heritage", .field "body" "class_body",
      optional "_automatic_semicolon"])),
  ("class_heritage", .all [text "extends", "expression"]),
  ("function_expression",
    binds "literal" (.all [optional (text "async"), text "function",
      .field "name" (optional "identifier"), "_call_signature",
      .field "body" "statement_block"])),
  ("function_declaration",
    bindsRight (.named "declare") (.all [optional (text "async"), text "function",
      .field "name" "identifier", "_call_signature", .field "body" "statement_block",
      optional "_automatic_semicolon"])),
  ("generator_function",
    binds "literal" (.all [optional (text "async"), text "function", text "*",
      .field "name" (optional "identifier"), "_call_signature",
      .field "body" "statement_block"])),
  ("generator_function_declaration",
    bindsRight (.named "declare") (.all [optional (text "async"), text "function", text "*",
      .field "name" "identifier", "_call_signature", .field "body" "statement_block",
      optional "_automatic_semicolon"])),
  ("arrow_function",
    .all [optional (text "async"),
      .any [.field "parameter" (.any [as "identifier" "_reserved_identifier", "identifier"]),
        "_call_signature"],
      text "=>", .field "body" (.any ["expression", "statement_block"])]),
  ("_call_signature", .field "parameters" "formal_parameters"),
  ("_formal_parameter", .any ["pattern", "assignment_pattern"]),
  ("optional_chain", text "?."),
  ("call_expression", .any [
    binds "call" (.all [.field "function" (.any ["expression", "import"]),
      .field "arguments" "arguments"]),
    binds "template_call" (.all [.field "function" (.any ["primary_expression", "new_expression"]),
      .field "arguments" "template_string"]),
    binds "member" (.all [.field "function" "primary_expression",
      .field "optional_chain" "optional_chain", .field "arguments" "arguments"])]),
  ("new_expression",
    bindsRight (.named "new") (.all [text "new",
      .field "constructor" (.any ["primary_expression", "new_expression"]),
      .field "arguments" (optional (.dynamic 1 "arguments"))])),
  ("await_expression", binds "unary_void" (.all [text "await", "expression"])),
  ("member_expression",
    binds "member" (.all [
      .field "object" (.any ["expression", "primary_expression", "import"]),
      .any [text ".", .field "optional_chain" "optional_chain"],
      .field "property" (.any ["private_property_identifier",
        .reserving "properties" (as "property_identifier" "identifier")])])),
  ("subscript_expression",
    bindsRight (.named "member") (.all [
      .field "object" (.any ["expression", "primary_expression"]),
      optional (.field "optional_chain" "optional_chain"),
      text "[", .field "index" "_expressions", text "]"])),
  ("_lhs_expression",
    .any ["member_expression", "subscript_expression", "_identifier",
      as "identifier" "_reserved_identifier", "_destructuring_pattern"]),
  ("assignment_expression",
    bindsRight (.named "assign") (.all [
      .field "left" (.any ["parenthesized_expression", "_lhs_expression"]),
      text "=", .field "right" "expression"])),
  ("_augmented_assignment_lhs",
    .any ["member_expression", "subscript_expression", as "identifier" "_reserved_identifier",
      "identifier", "parenthesized_expression"]),
  ("augmented_assignment_expression",
    bindsRight (.named "assign") (.all [.field "left" "_augmented_assignment_lhs",
      .field "operator" (.any (assignments.map text)), .field "right" "expression"])),
  ("_initializer", .all [text "=", .field "value" "expression"]),
  ("_destructuring_pattern", .any ["object_pattern", "array_pattern"]),
  ("spread_element", .all [text "...", "expression"]),
  ("ternary_expression",
    bindsRight (.named "ternary") (.all [.field "condition" "expression",
      .shownAs ⟨"?", false⟩ "_ternary_qmark", .field "consequence" "expression", text ":",
      .field "alternative" "expression"])),
  ("binary_expression", .any (operators.map fun (operator, precedence, associativity) =>
    .ranked (.named precedence) (some associativity) (.all [
      .field "left" (if operator = "in" then .any ["expression", "private_property_identifier"]
        else "expression"),
      .field "operator" (text operator),
      .field "right" "expression"]))),
  ("unary_expression",
    bindsLeft (.named "unary_void") (.all [
      .field "operator" (.any (["!", "~", "-", "+", "typeof", "void", "delete"].map text)),
      .field "argument" "expression"])),
  ("update_expression",
    groupsLeft (.any [
      .all [.field "argument" "expression", .field "operator" (.any [text "++", text "--"])],
      .all [.field "operator" (.any [text "++", text "--"]), .field "argument" "expression"]])),
  ("sequence_expression", groupsRight (commaSep1 "expression"))]

def literalRules : List (String × Rule String) := [
  ("string", .any [
    .all [text "\"",
      many (.any [as "string_fragment" "unescaped_double_string_fragment", "escape_sequence"]),
      text "\""],
    .all [text "'",
      many (.any [as "string_fragment" "unescaped_single_string_fragment", "escape_sequence"]),
      text "'"]]),
  ("unescaped_double_string_fragment", immediate 1 (.oneOrMore (.noneOf "\"\\\r\n"))),
  ("unescaped_single_string_fragment", immediate 1 (.oneOrMore (.noneOf "'\\\r\n"))),
  ("escape_sequence", immediate 0 escapePattern),
  ("comment", pattern commentPattern),
  ("template_string",
    .all [text "\x60",
      many (.any [as "string_fragment" "_template_chars", "escape_sequence",
        "template_substitution"]),
      text "\x60"]),
  ("template_substitution", .all [text "$\x7b", "_expressions", text "\x7d"]),
  ("regex",
    .all [text "/", .field "pattern" "regex_pattern",
      .token { pattern := .text "/", literal := some "/", precedence := 1, immediate := true },
      optional (.field "flags" "regex_flags")]),
  ("regex_pattern", immediate (-1) regexPattern),
  ("regex_flags", immediate 0 (.oneOrMore (.within [('a', 'z')]))),
  ("number", pattern numberPattern),
  ("_identifier", .any ["undefined", "identifier"]),
  ("identifier", pattern (.seq identifierStart (.many identifierPart))),
  ("private_property_identifier",
    pattern (.all [.text "#", identifierStart, .many identifierPart])),
  ("meta_property", .any [
    .all [text "new", text ".", text "target"],
    .all [text "import", text ".", text "meta"]]),
  ("this", text "this"),
  ("super", text "super"),
  ("true", text "true"),
  ("false", text "false"),
  ("null", text "null"),
  ("undefined", text "undefined"),
  ("arguments",
    .all [text "(", commaSep (optional (.any ["expression", "spread_element"])), text ")"])]

def memberRules : List (String × Rule String) := [
  ("decorator",
    .all [text "@", .any ["identifier", as "member_expression" "decorator_member_expression",
      as "call_expression" "decorator_call_expression"]]),
  ("decorator_member_expression",
    binds "member" (.all [
      .field "object" (.any ["identifier", as "member_expression" "decorator_member_expression"]),
      text ".", .field "property" (as "property_identifier" "identifier")])),
  ("decorator_call_expression",
    binds "call" (.all [
      .field "function" (.any ["identifier",
        as "member_expression" "decorator_member_expression"]),
      .field "arguments" "arguments"])),
  ("class_body",
    .all [text "\x7b",
      many (.any [
        .all [.field "member" "method_definition", optional (text ";")],
        .all [.field "member" "field_definition", "_semicolon"],
        .field "member" "class_static_block",
        text ";"]),
      text "\x7d"]),
  ("field_definition",
    .all [decorators, optional (.any [text "static", staticGet]),
      .field "property" "_property_name", optional "_initializer"]),
  ("formal_parameters",
    .all [text "(", optional (.all [commaSep1 "_formal_parameter", optional (text ",")]),
      text ")"]),
  ("class_static_block",
    .all [text "static", optional "_automatic_semicolon", .field "body" "statement_block"]),
  ("pattern", .dynamic (-1) (.any ["_lhs_expression", "rest_pattern"])),
  ("rest_pattern", groupsRight (.all [text "...", "_lhs_expression"])),
  ("method_definition",
    .all [decorators, optional (.any [text "static", staticGet]), optional (text "async"),
      optional (.any [text "get", text "set", text "*"]), .field "name" "_property_name",
      .field "parameters" "formal_parameters", .field "body" "statement_block"]),
  ("pair", .all [.field "key" "_property_name", text ":", .field "value" "expression"]),
  ("pair_pattern",
    .all [.field "key" "_property_name", text ":",
      .field "value" (.any ["pattern", "assignment_pattern"])]),
  ("_property_name",
    .reserving "properties" (.any [
      as "property_identifier" (.any ["identifier", "_reserved_identifier"]),
      "private_property_identifier", "string", "number", "computed_property_name"])),
  ("computed_property_name", .all [text "[", "expression", text "]"]),
  ("_reserved_identifier", .any (["get", "set", "async", "static", "export", "let"].map text)),
  ("_semicolon", .any ["_automatic_semicolon", text ";"])]

/-- The words that never are identifiers. -/
def reservedWords : List String :=
  ["break", "case", "catch", "class", "const", "continue", "debugger", "default", "delete", "do",
    "else", "export", "extends", "false", "finally", "for", "function", "if", "import", "in",
    "instanceof", "new", "null", "return", "super", "switch", "this", "throw", "true", "try",
    "typeof", "var", "void", "while", "with"]

def grammar : Definition where
  name := "javascript"
  rules := moduleRules ++ statementRules ++ expressionRules ++ markupRules ++ functionRules ++
    literalRules ++ memberRules
  extras := ["comment", "html_comment", pattern (.one separator)]
  externals := ["_automatic_semicolon", "_template_chars", "_ternary_qmark", "html_comment",
    text "||", "escape_sequence", "regex_pattern", "jsx_text"]
  conflicts := [
    ["primary_expression", "_property_name"],
    ["primary_expression", "_property_name", "arrow_function"],
    ["primary_expression", "arrow_function"],
    ["primary_expression", "method_definition"],
    ["primary_expression", "rest_pattern"],
    ["primary_expression", "pattern"],
    ["primary_expression", "_for_header"],
    ["variable_declarator", "_for_header"],
    ["array", "array_pattern"],
    ["object", "object_pattern"],
    ["assignment_expression", "pattern"],
    ["assignment_expression", "object_assignment_pattern"],
    ["labeled_statement", "_property_name"],
    ["computed_property_name", "array"],
    ["binary_expression", "_initializer"],
    ["class_static_block", "_property_name"]]
  orderings := [
    [.named "member", .named "template_call", .named "call", .rule "update_expression",
      .named "unary_void", .named "binary_exp", .named "binary_times", .named "binary_plus",
      .named "binary_shift", .named "binary_compare", .named "binary_relation",
      .named "binary_equality", .named "bitwise_and", .named "bitwise_xor", .named "bitwise_or",
      .named "logical_and", .named "logical_or", .named "ternary", .rule "sequence_expression",
      .rule "arrow_function"],
    [.named "assign", .rule "primary_expression"],
    [.named "member", .named "template_call", .named "new", .named "call", .rule "expression"],
    [.named "declare", .named "literal"],
    [.rule "primary_expression", .rule "statement_block", .named "object"],
    [.rule "meta_property", .rule "import"],
    [.rule "import_statement", .rule "import"],
    [.rule "export_statement", .rule "primary_expression"],
    [.rule "lexical_declaration", .rule "primary_expression"]]
  supertypes := ["statement", "declaration", "expression", "primary_expression", "pattern"]
  inlined := ["_call_signature", "_formal_parameter", "_expressions", "_semicolon", "_identifier",
    "_reserved_identifier", "_jsx_attribute", "_jsx_element_name", "_jsx_child", "_jsx_element",
    "_jsx_attribute_name", "_jsx_attribute_value", "_jsx_identifier", "_lhs_expression"]
  word := some "identifier"
  reserved := [("global", reservedWords.map text), ("properties", [])]

end SyntaxExplorer.Grammar.JavaScript
