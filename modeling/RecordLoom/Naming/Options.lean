/-!
The options of naming.
-/

namespace RecordLoom.Naming

structure Options where
  forceDatabaseName : Option String
  dropFileExtension : Bool
  capitalizeDatabaseName : Bool
  camelCaseDatabaseName : Bool
  singularizeRecordNames : Bool
  capitalizeRecordNames : Bool
  camelCaseRecordNames : Bool
  stripCoreDataMark : Bool
  decapitalizePropertyNames : Bool
  camelCasePropertyNames : Bool
  foldCapitalRuns : Bool
  /-- The name of a lone primary key, if no other property has it. -/
  forcePrimaryKeyName : Option String
  replacements : List (String × String)
  detectPrimaryKeys : Bool
  primaryKeyNames : List String
  detectForeignKeys : Bool
  detectForeignKeysInViews : Bool
  foreignKeyNeedsTableName : Bool
  foreignKeySuffixes : List String
  deriveRelationships : Bool
  reverseRelationships : Bool
  relationshipSuffixes : List String
  /-- Declared types, case disregarded, to the tags of property types. -/
  typeMap : List (String × String)
  /-- Ends of column names to the tags of property types; they come before declared types. -/
  columnSuffixMap : List (String × String)
  deriving DecidableEq, Repr

def defaultKeyNames : List String :=
  ["id", "ID", "Id", "pkey", "primaryKey", "PrimaryKey", "key", "Key"]

def Options.default : Options where
  forceDatabaseName := none
  dropFileExtension := true
  capitalizeDatabaseName := true
  camelCaseDatabaseName := true
  singularizeRecordNames := true
  capitalizeRecordNames := true
  camelCaseRecordNames := true
  stripCoreDataMark := false
  decapitalizePropertyNames := true
  camelCasePropertyNames := true
  foldCapitalRuns := true
  forcePrimaryKeyName := none
  replacements := [(" ", "_"), ("-", "_"), ("/", "_")]
  detectPrimaryKeys := true
  primaryKeyNames := defaultKeyNames
  detectForeignKeys := true
  detectForeignKeysInViews := true
  foreignKeyNeedsTableName := true
  foreignKeySuffixes := defaultKeyNames ++ ["_id", "_ID", "_key", "_fk"]
  deriveRelationships := true
  reverseRelationships := true
  relationshipSuffixes :=
    ["_id", "_ID", "Id", "ID", "id", "_fkey", "_fk", "ForeignKey", "_key", "_Key", "Key", "key"]
  typeMap :=
    [("uuid", "uuid"), ("url", "url"), ("timestamp", "date"), ("datetime", "date"),
     ("date", "date"), ("decimal", "decimal"), ("numeric", "decimal")]
  columnSuffixMap := []

end RecordLoom.Naming
