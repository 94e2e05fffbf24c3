import LayerAudit.Syntax.Grammar

/-!
# Symbols of the TypeScript grammar

Terminals come first, then nonterminals, then the names under which a production may show a child.
The keywords are the words that read as terminals of their own.
-/

namespace LayerAudit.Syntax.TypeScript

/-- The symbols, one a line: a plus sign for a construct, an equals sign for bare punctuation or a
bare keyword, a hyphen for a symbol whose children show in its place. -/
def symbolText : String :=
  "-end
+identifier
+hash_bang_line
=export
=*
=default
=type
==
=as
=namespace
=\x7b
=,
=\x7d
=typeof
=import
=from
=with
=var
=let
=const
=!
=else
=if
=switch
=for
=(
=;
=)
=await
=in
=of
=while
=do
=try
=break
=continue
=debugger
=return
=throw
=:
=case
=catch
=finally
=yield
=[
=]
=.
=class
=async
=function
==>
=?.
=new
=using
=+=
=-=
=*=
=/=
=%=
=^=
=&=
=|=
=>>=
=>>>=
=<<=
=**=
=&&=
=||=
=??=
=...
=&&
=||
=>>
=>>>
=<<
=&
=^
=|
=+
=-
=/
=%
=**
=<
=<=
===
====
=!=
=!==
=>=
=>
=??
=instanceof
=~
=void
=delete
=++
=--
=\"
='
+string_fragment
+string_fragment
+escape_sequence
+comment
=`
=$\x7b
=/
+regex_pattern
+regex_flags
+number
+private_property_identifier
=target
=meta
+this
+super
+true
+false
+null
+undefined
=@
=static
=readonly
=get
=set
=?
=declare
=public
=private
=protected
=override
=module
=any
=number
=boolean
=string
=symbol
=object
=abstract
=accessor
=satisfies
=require
=extends
=implements
=global
=interface
=enum
=-?:
=+?:
=?:
=asserts
=infer
=is
=keyof
=unique symbol
=unknown
=never
=\x7b|
=|\x7d
-_automatic_semicolon
+string_fragment
=?
+html_comment
+jsx_text
-_function_signature_automatic_semicolon
-__error_recovery
+program
+export_statement
+namespace_export
+export_clause
+export_specifier
-_module_export_name
-declaration
+import
+import_statement
+import_clause
-_from_clause
+namespace_import
+named_imports
+import_specifier
+import_attribute
-statement
+expression_statement
+variable_declaration
+lexical_declaration
+variable_declarator
+statement_block
+else_clause
+if_statement
+switch_statement
+for_statement
+for_in_statement
-_for_header
+while_statement
+do_statement
+try_statement
+with_statement
+break_statement
+continue_statement
+debugger_statement
+return_statement
+throw_statement
+empty_statement
+labeled_statement
+switch_body
+switch_case
+switch_default
+catch_clause
+finally_clause
+parenthesized_expression
-expression
-primary_expression
+yield_expression
+object
+object_pattern
+assignment_pattern
+object_assignment_pattern
+array
+array_pattern
+nested_identifier
+class
+class_declaration
+class_heritage
+function_expression
+function_declaration
+generator_function
+generator_function_declaration
+arrow_function
-_call_signature
-_formal_parameter
+optional_chain
+call_expression
+new_expression
+await_expression
+member_expression
+subscript_expression
+assignment_expression
-_augmented_assignment_lhs
+augmented_assignment_expression
-_initializer
-_destructuring_pattern
+spread_element
+ternary_expression
+binary_expression
+unary_expression
+update_expression
+sequence_expression
+string
+template_string
+template_substitution
+regex
+meta_property
+arguments
+decorator
+member_expression
+call_expression
+class_body
+formal_parameters
+class_static_block
-pattern
+rest_pattern
+method_definition
+pair
+pair_pattern
-_property_name
+computed_property_name
+public_field_definition
-_import_identifier
+non_null_expression
+method_signature
+abstract_method_signature
+function_signature
+parenthesized_expression
+type_assertion
+as_expression
+satisfies_expression
+instantiation_expression
+import_require_clause
+extends_clause
-_extends_clause_single
+implements_clause
+ambient_declaration
+abstract_class_declaration
+module
+internal_module
-_module
+import_alias
+nested_type_identifier
+interface_declaration
+extends_type_clause
+enum_declaration
+enum_body
+enum_assignment
+type_alias_declaration
+accessibility_modifier
+override_modifier
+required_parameter
+optional_parameter
-_parameter_name
+omitting_type_annotation
+adding_type_annotation
+opting_type_annotation
+type_annotation
+member_expression
+call_expression
+asserts
+asserts_annotation
-type
+required_parameter
+optional_parameter
+optional_type
+rest_type
-_tuple_type_member
+constructor_type
-primary_type
+template_type
+template_literal_type
+infer_type
+conditional_type
+generic_type
+type_predicate
+type_predicate_annotation
+member_expression
+subscript_expression
+call_expression
+instantiation_expression
+type_query
+index_type_query
+lookup_type
+mapped_type_clause
+literal_type
+unary_expression
+existential_type
+flow_maybe_type
+parenthesized_type
+predefined_type
+type_arguments
+object_type
+call_signature
+property_signature
+type_parameters
+type_parameter
+default_type
+constraint
+construct_signature
+index_signature
+array_type
+tuple_type
+readonly_type
+union_type
+intersection_type
+function_type
-program_repeat1
-export_statement_repeat1
-export_clause_repeat1
-named_imports_repeat1
-variable_declaration_repeat1
-switch_body_repeat1
-object_repeat1
-object_pattern_repeat1
-array_repeat1
-array_pattern_repeat1
-sequence_expression_repeat1
-string_repeat1
-string_repeat2
-template_string_repeat1
-class_body_repeat1
-formal_parameters_repeat1
-extends_clause_repeat1
-implements_clause_repeat1
-extends_type_clause_repeat1
-enum_body_repeat1
-template_literal_type_repeat1
-object_type_repeat1
-type_parameters_repeat1
-tuple_type_repeat1
=?
+call_expression
+identifier
+instantiation_expression
+interface_body
+member_expression
+optional_parameter
+parenthesized_expression
+property_identifier
+required_parameter
+shorthand_property_identifier
+shorthand_property_identifier_pattern
+statement_identifier
+string_fragment
+subscript_expression
+this_type
+type_identifier
+unary_expression
=unique symbol"

/-- Reads one line of the symbol list. -/
def readSymbol : List Char → SymbolInfo
  | '+' :: name => ⟨String.ofList name, true, true⟩
  | '=' :: name => ⟨String.ofList name, true, false⟩
  | line => ⟨String.ofList (line.drop 1), false, false⟩

/-- The grammar's symbols, by number. -/
def symbols : Array SymbolInfo := ((symbolText.toList.splitOn '\n').map readSymbol).toArray

/-- Symbols below this bound are terminals. -/
def terminalCount : Nat := 165

/-- The words that read as terminals of their own, with their symbols. -/
def keywords : List (String × Symbol) := [
  ("abstract", 137), ("accessor", 138), ("any", 131), ("as", 8), ("asserts", 149), ("async", 48),
  ("await", 28), ("boolean", 133), ("break", 34), ("case", 40), ("catch", 41), ("class", 47),
  ("const", 19), ("continue", 35), ("debugger", 36), ("declare", 125), ("default", 5),
  ("delete", 95), ("do", 32), ("else", 21), ("enum", 145), ("export", 3), ("extends", 141),
  ("false", 116), ("finally", 42), ("for", 24), ("from", 15), ("function", 49), ("get", 122),
  ("global", 143), ("if", 22), ("implements", 142), ("import", 14), ("in", 29), ("infer", 150),
  ("instanceof", 92), ("interface", 144), ("is", 151), ("keyof", 152), ("let", 18), ("meta", 112),
  ("module", 130), ("namespace", 9), ("never", 155), ("new", 52), ("null", 117), ("number", 132),
  ("object", 136), ("of", 30), ("override", 129), ("private", 127), ("protected", 128),
  ("public", 126), ("readonly", 121), ("require", 140), ("return", 37), ("satisfies", 139),
  ("set", 123), ("static", 120), ("string", 134), ("super", 114), ("switch", 23), ("symbol", 135),
  ("target", 111), ("this", 113), ("throw", 38), ("true", 115), ("try", 33), ("type", 6),
  ("typeof", 13), ("undefined", 118), ("unique", 153), ("unknown", 154), ("using", 53),
  ("var", 17), ("void", 94), ("while", 31), ("with", 16), ("yield", 43)]

end LayerAudit.Syntax.TypeScript
