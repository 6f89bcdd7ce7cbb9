import RecordLoom.Code.Spelling
import RecordLoom.Settings.Check

/-!
The spelling of another language as settings.
-/

namespace RecordLoom.Settings

open RecordLoom.Code

def wordField (key : String) (get : Spelling → String) (set : Spelling → String → Spelling) :
    Field Spelling :=
  .of key .text get set

def spellingFields : List (Field Spelling) :=
  [.of "reserved_words" (.list .text) (·.reservedWords) fun s v => { s with reservedWords := v },
   wordField "identifier_quote" (·.identifierQuote) fun s v => { s with identifierQuote := v },
   .of "label_reserved_words" (.list .text) (·.labelReservedWords)
     fun s v => { s with labelReservedWords := v },
   wordField "wildcard_label" (·.wildcardLabel) fun s v => { s with wildcardLabel := v },
   wordField "line_comment" (·.lineComment) fun s v => { s with lineComment := v },
   wordField "import_keyword" (·.importKeyword) fun s v => { s with importKeyword := v },
   wordField "reexport_keyword" (·.reexportKeyword) fun s v => { s with reexportKeyword := v },
   wordField "extension_keyword" (·.extensionKeyword) fun s v => { s with extensionKeyword := v },
   wordField "function_keyword" (·.functionKeyword) fun s v => { s with functionKeyword := v },
   wordField "initializer_name" (·.initializerName) fun s v => { s with initializerName := v },
   wordField "static_keyword" (·.staticKeyword) fun s v => { s with staticKeyword := v },
   wordField "mutating_keyword" (·.mutatingKeyword) fun s v => { s with mutatingKeyword := v },
   wordField "constant_keyword" (·.constantKeyword) fun s v => { s with constantKeyword := v },
   wordField "variable_keyword" (·.variableKeyword) fun s v => { s with variableKeyword := v },
   wordField "where_keyword" (·.whereKeyword) fun s v => { s with whereKeyword := v },
   wordField "inlinable_attribute" (·.inlinableAttribute)
     fun s v => { s with inlinableAttribute := v },
   wordField "discardable_result_attribute" (·.discardableAttribute)
     fun s v => { s with discardableAttribute := v },
   wordField "escaping_attribute" (·.escapingAttribute)
     fun s v => { s with escapingAttribute := v },
   wordField "async_keyword" (·.asyncKeyword) fun s v => { s with asyncKeyword := v },
   wordField "throws_keyword" (·.throwsKeyword) fun s v => { s with throwsKeyword := v },
   wordField "try_keyword" (·.tryKeyword) fun s v => { s with tryKeyword := v },
   wordField "await_keyword" (·.awaitKeyword) fun s v => { s with awaitKeyword := v },
   wordField "return_arrow" (·.returnArrow) fun s v => { s with returnArrow := v },
   wordField "return_keyword" (·.returnKeyword) fun s v => { s with returnKeyword := v },
   wordField "if_keyword" (·.ifKeyword) fun s v => { s with ifKeyword := v },
   wordField "else_keyword" (·.elseKeyword) fun s v => { s with elseKeyword := v },
   wordField "closure_in_keyword" (·.closureInKeyword) fun s v => { s with closureInKeyword := v },
   .of "implicit_return" .flag (·.implicitReturn) fun s v => { s with implicitReturn := v },
   wordField "void_type" (·.voidType) fun s v => { s with voidType := v },
   wordField "optional_suffix" (·.optionalSuffix) fun s v => { s with optionalSuffix := v },
   wordField "array_type" (·.arrayType) fun s v => { s with arrayType := v },
   wordField "key_path_type" (·.keyPathType) fun s v => { s with keyPathType := v },
   wordField "self_keyword" (·.selfKeyword) fun s v => { s with selfKeyword := v },
   wordField "metatype_suffix" (·.metatypeSuffix) fun s v => { s with metatypeSuffix := v },
   wordField "key_path_prefix" (·.keyPathMark) fun s v => { s with keyPathMark := v },
   wordField "nil_literal" (·.nilLiteral) fun s v => { s with nilLiteral := v },
   wordField "true_literal" (·.trueLiteral) fun s v => { s with trueLiteral := v },
   wordField "false_literal" (·.falseLiteral) fun s v => { s with falseLiteral := v },
   wordField "data_literal" (·.dataLiteral) fun s v => { s with dataLiteral := v },
   wordField "infinity_literal" (·.infinityLiteral) fun s v => { s with infinityLiteral := v },
   wordField "nan_literal" (·.nanLiteral) fun s v => { s with nanLiteral := v },
   wordField "code_block_language" (·.codeBlockLanguage)
     fun s v => { s with codeBlockLanguage := v }]

/-- A spelling that differs from that of Swift in the fields that are given. -/
def readSpelling : Json → Checked Spelling := readSection "Spelling" spellingFields .swift

end RecordLoom.Settings
