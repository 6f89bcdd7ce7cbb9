import RecordLoom.Code.Style
import RecordLoom.Inputs.Path
import RecordLoom.Journal.Config
import RecordLoom.Naming.Options
import RecordLoom.Record.Output
import RecordLoom.Settings.Check

/-!
The sections of the settings, each as a table of its fields in order.
-/

namespace RecordLoom.Settings

open RecordLoom.Text

section Naming

open RecordLoom.Naming

def typeTags : Kind (List (String × String)) :=
  (Kind.map Kind.text).refine fun members =>
    match members.find? fun (key, tag) => key.isEmpty || tag.isEmpty with
    | some (key, tag) =>
        .error ("Empty type mapping entry: " ++ quoted key ++ " -> " ++ quoted tag)
    | none => .ok members

def keyNames : Kind (List String) :=
  (Kind.list Kind.text).refine fun names =>
    if names.any String.isEmpty then .error "Key names must not be empty" else .ok names

def namingFields : List (Field Options) :=
  [.of "force_database_name" (.optional .text) (·.forceDatabaseName)
     fun o v => { o with forceDatabaseName := v },
   .of "drop_database_file_extension" .flag (·.dropFileExtension)
     fun o v => { o with dropFileExtension := v },
   .of "capitalize_database_name" .flag (·.capitalizeDatabaseName)
     fun o v => { o with capitalizeDatabaseName := v },
   .of "camel_case_database_name" .flag (·.camelCaseDatabaseName)
     fun o v => { o with camelCaseDatabaseName := v },
   .of "singularize_record_names" .flag (·.singularizeRecordNames)
     fun o v => { o with singularizeRecordNames := v },
   .of "capitalize_record_names" .flag (·.capitalizeRecordNames)
     fun o v => { o with capitalizeRecordNames := v },
   .of "camel_case_record_names" .flag (·.camelCaseRecordNames)
     fun o v => { o with camelCaseRecordNames := v },
   .of "strip_core_data_prefix" .flag (·.stripCoreDataMark)
     fun o v => { o with stripCoreDataMark := v },
   .of "decapitalize_property_names" .flag (·.decapitalizePropertyNames)
     fun o v => { o with decapitalizePropertyNames := v },
   .of "camel_case_property_names" .flag (·.camelCasePropertyNames)
     fun o v => { o with camelCasePropertyNames := v },
   .of "normalize_upper_case_runs" .flag (·.foldCapitalRuns)
     fun o v => { o with foldCapitalRuns := v },
   .of "force_primary_key_name" (.optional .text) (·.forcePrimaryKeyName)
     fun o v => { o with forcePrimaryKeyName := v },
   .of "identifier_replacements" (.map .text) (·.replacements)
     fun o v => { o with replacements := v },
   .of "autodetect_primary_keys" .flag (·.detectPrimaryKeys)
     fun o v => { o with detectPrimaryKeys := v },
   .of "primary_key_names" keyNames (·.primaryKeyNames)
     fun o v => { o with primaryKeyNames := v },
   .of "autodetect_foreign_keys" .flag (·.detectForeignKeys)
     fun o v => { o with detectForeignKeys := v },
   .of "autodetect_foreign_keys_in_views" .flag (·.detectForeignKeysInViews)
     fun o v => { o with detectForeignKeysInViews := v },
   .of "foreign_key_requires_table_name" .flag (·.foreignKeyNeedsTableName)
     fun o v => { o with foreignKeyNeedsTableName := v },
   .of "foreign_key_suffixes" keyNames (·.foreignKeySuffixes)
     fun o v => { o with foreignKeySuffixes := v },
   .of "derive_relationships_from_foreign_keys" .flag (·.deriveRelationships)
     fun o v => { o with deriveRelationships := v },
   .of "generate_reverse_relationships" .flag (·.reverseRelationships)
     fun o v => { o with reverseRelationships := v },
   .of "relationship_strip_suffixes" (.list .text) (·.relationshipSuffixes)
     fun o v => { o with relationshipSuffixes := v },
   .of "type_map" typeTags (·.typeMap) fun o v => { o with typeMap := v },
   .of "column_suffix_map" typeTags (·.columnSuffixMap)
     fun o v => { o with columnSuffixMap := v }]

def readNaming : Json → Checked Options := readSection "NamingOptions" namingFields .default

end Naming

section Layout

open RecordLoom.Code

def spaces (count : Nat) : String := .ofList (List.replicate count ' ')

def readIndentText (s : String) : Checked String :=
  if s.isEmpty || !s.toList.all isDigitForm then .ok s
  else
    match Number.readInt? s with
    | some n => .ok (spaces n.toNat)
    | none =>
        reject (.str s) ("Value error, invalid literal for int() with base 10: " ++ quoted s)

def indentKind : Kind String :=
  { Kind.text with
    read
      | .int n =>
          if n < 0 then reject (.int n) s!"Value error, Indent must be >= 0, got {n}"
          else .ok (spaces n.toNat)
      | .str s => readIndentText s
      | input => Kind.text.read input }

def lineLengthKind : Kind Int :=
  Kind.integer.refine fun n =>
    if n < 1 then .error s!"Line length must be positive, got {n}" else .ok n

def isNoComment : Json → Bool
  | .null | .bool false => true
  | .str s => ["none", "no", "false", ""].contains (lower s)
  | _ => false

def commentKind : Kind CommentStyle :=
  let choice := Kind.choice CommentStyle.name CommentStyle.all
  { choice with read := fun input => if isNoComment input then .ok .none else choice.read input }

def renderFields : List (Field Style) :=
  [.of "indent" indentKind (·.indent) fun s v => { s with indent := v },
   .of "eol" .text (·.eol) fun s v => { s with eol := v },
   .of "line_length" lineLengthKind (·.lineLength) fun s v => { s with lineLength := v },
   .of "type_comment_style" commentKind (·.typeComment) fun s v => { s with typeComment := v },
   .of "property_comment_style" commentKind (·.propertyComment)
     fun s v => { s with propertyComment := v },
   .of "function_comment_style" commentKind (·.functionComment)
     fun s v => { s with functionComment := v },
   .of "identifier_list_separator" .text (·.listSeparator)
     fun s v => { s with listSeparator := v },
   .of "conformance_separator" .text (·.conformanceSeparator)
     fun s v => { s with conformanceSeparator := v },
   .of "property_type_separator" .text (·.typeSeparator)
     fun s v => { s with typeSeparator := v },
   .of "property_value_separator" .text (·.valueSeparator)
     fun s v => { s with valueSeparator := v },
   .of "never_inline" .flag (·.neverInline) fun s v => { s with neverInline := v },
   .of "examples_header" .text (·.examplesHeader) fun s v => { s with examplesHeader := v },
   .of "sql_header" .text (·.sqlHeader) fun s v => { s with sqlHeader := v }]

def readRender : Json → Checked Style := readSection "RenderStyle" renderFields .default

end Layout

section Unit

open RecordLoom.Record

def outputFields : List (Field Output) :=
  [.of "header" (.optional .text) (·.header) fun o v => { o with header := v },
   .of "imports" (.list .text) (·.imports) fun o v => { o with imports := v },
   .of "reexports" (.list .text) (·.reexports) fun o v => { o with reexports := v },
   .of "public" .flag (·.isPublic) fun o v => { o with isPublic := v },
   .of "relationship_accessors" .flag (·.accessors) fun o v => { o with accessors := v }]

def readOutput : Json → Checked Output := readSection "OutputConfig" outputFields .default

end Unit

section Logging

open RecordLoom.Journal

def levelKind : Kind Level :=
  .choice (fun level => upper level.name) Level.all

def expandHome (home : String) (path : Inputs.Path) : Inputs.Path :=
  match path.isAbsolute, path.parts with
  | false, "~" :: rest =>
      let base := Inputs.Path.ofString home
      { base with parts := base.parts ++ rest }
  | _, _ => path

def destinationKind (home : String) : Kind String :=
  Kind.text.refine fun destination =>
    if destination == "stderr" || destination == "stdout" then .ok destination
    else
      let path := expandHome home (.ofString destination)
      if path.isAbsolute then .ok path.toString
      else .error ("File destination must be absolute path: " ++ destination)

def logOutputFields (home : String) : List (Field Output) :=
  [.of "format" (.choice Format.name Format.all) (·.format) fun o v => { o with format := v },
   .of "destination" (destinationKind home) (·.destination)
     fun o v => { o with destination := v },
   .of "level" (.optional levelKind) (·.level) fun o v => { o with level := v }]

def logOutputKind (home : String) : Kind Output where
  read := readSection "LogOutputConfig" (logOutputFields home) .default
  write := writeSection (logOutputFields home)
  isStructured := true

def loggingFields (home : String) : List (Field Config) :=
  [.of "level" levelKind (·.level) fun c v => { c with level := v },
   .of "outputs" (.list (logOutputKind home)) (·.outputs) fun c v => { c with outputs := v }]

def readLogging (home : String) : Json → Checked Config :=
  readSection "LoggingConfig" (loggingFields home) .default

end Logging

end RecordLoom.Settings
