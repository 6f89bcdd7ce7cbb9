import RecordLoom.Catalog.Engine
import RecordLoom.Text.Replace

/-!
An engine that answers from recordings.  A recording is a document with what an engine said of one
database: its catalog, its versions, its pragmas, and the calls that it refused.
-/

namespace RecordLoom.Catalog

namespace Recording

def textOf : Json → String
  | .str s => s
  | _ => ""

def text? : Json → Option String
  | .str s => some s
  | _ => none

def intOf : Json → Int
  | .int n => n
  | .bool true => 1
  | _ => 0

def int? : Json → Option Int
  | .int n => some n
  | _ => none

def itemsOf : Json → List Json
  | .arr items => items
  | _ => []

def memberOf (key : String) (document : Json) : Json := (document.get? key).getD .null

def readCatalogRow (row : Json) : Option CatalogRow :=
  match itemsOf row with
  | [kind, name, table, rootPage, sql] =>
      some ⟨textOf kind, textOf name, textOf table, int? rootPage, text? sql⟩
  | _ => none

def readColumnRow (row : Json) : Option ColumnRow :=
  match itemsOf row with
  | [id, name, type, notNull, default, key] =>
      some ⟨intOf id, textOf name, text? type, intOf notNull, text? default, intOf key⟩
  | _ => none

def readForeignKeyRow (row : Json) : Option ForeignKeyRow :=
  match itemsOf row with
  | id :: seq :: table :: column :: referenced :: onUpdate :: onDelete :: matching :: _ =>
      some ⟨intOf id, intOf seq, textOf table, textOf column, text? referenced, text? onUpdate,
        text? onDelete, text? matching⟩
  | _ => none

def readRefusal (refusal : Json) : EngineError :=
  match itemsOf refusal with
  | [message, code] => ⟨textOf message, text? code⟩
  | _ => ⟨"", none⟩

/-- A version is zero unless recorded; null stands for a query without a row. -/
def readVersion (key : String) (document : Json) : Option Int :=
  match document.get? key with
  | some value => int? value
  | none => some 0

def answer {State α : Type} (document : Json) (call : String) (value : α) : Reply State α :=
  fun state =>
    match (memberOf "fail" document).get? call with
    | some refusal => (.error (readRefusal refusal), state)
    | none => (.ok value, state)

def refusal? (pairs : Json) (test : String → Bool) : Option EngineError :=
  (itemsOf pairs).findSome? fun pair =>
    match itemsOf pair with
    | [text, refusal] => if test (textOf text) then some (readRefusal refusal) else none
    | _ => none

/-- A recording tells of refusals only; it has no call that broke down. -/
def refuse {State : Type} (refusal : Option EngineError) : Receipt State :=
  fun state => (refusal.elim (.ok ()) (.error ∘ .refused), state)

def engine {State : Type} (recordingOf : Place → Json) : Engine State where
  connect place := answer (recordingOf place) "connect" ()
  catalog place :=
    let document := recordingOf place
    answer document "catalog" ((itemsOf (memberOf "catalog" document)).filterMap readCatalogRow)
  schemaVersion place :=
    let document := recordingOf place
    answer document "schema_version" (readVersion "schema_version" document)
  userVersion place :=
    let document := recordingOf place
    answer document "user_version" (readVersion "user_version" document)
  tableInfo place name :=
    let document := recordingOf place
    answer document ("table_info:" ++ name)
      ((itemsOf (memberOf name (memberOf "table_info" document))).filterMap readColumnRow)
  foreignKeyList place name :=
    let document := recordingOf place
    answer document ("foreign_key_list:" ++ name)
      ((itemsOf (memberOf name (memberOf "foreign_key_list" document))).filterMap readForeignKeyRow)
  execute sql := refuse (refusal? (memberOf "fail_exec" (recordingOf .scratch)) (· == sql))
  script text :=
    refuse (refusal? (memberOf "fail_script" (recordingOf .scratch)) (Text.contains · text))

end Recording

end RecordLoom.Catalog
