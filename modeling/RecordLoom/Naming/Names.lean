import RecordLoom.Casing
import RecordLoom.Inflection
import RecordLoom.Naming.Options
import RecordLoom.Text.Replace

/-!
The derived names of a database, a record and a property from their SQL names.
-/

namespace RecordLoom.Naming

open RecordLoom.Casing

/-- Names in capitals that start with `Z`, though not with `Z_`. -/
def isCoreDataName (name : String) : Bool :=
  Text.startsWith name "Z" && !Text.startsWith name "Z_" && Text.upper name == name

def lowerTail (name : String) : String := Text.lower (.ofList (name.toList.drop 1))

def dropExtension (name : String) : String :=
  let stem := name.toList.takeWhile (· != '.')
  if stem.isEmpty then name else .ofList stem

def applyIf (on : Bool) (change : String → String) (name : String) : String :=
  if on then change name else name

namespace Options

variable (o : Options)

def replaceCharacters (name : String) : String :=
  o.replacements.foldl (fun name (old, new) => Text.replace old new name) name

def stripsMark (name : String) : Bool :=
  o.stripCoreDataMark && isCoreDataName name && 1 < name.length

def databaseName (name : String) : String :=
  match o.forceDatabaseName.filter fun forced => !forced.isEmpty with
  | some forced => forced
  | none =>
      let name := o.replaceCharacters (applyIf o.dropFileExtension dropExtension name)
      let name := applyIf o.capitalizeDatabaseName upperFirst name
      toIdentifier (applyIf o.camelCaseDatabaseName (camelCase ·) name)

def recordStem (name : String) : String :=
  let name := applyIf (o.stripsMark name) (fun name => upperFirst (lowerTail name)) name
  let name := toIdentifier (o.replaceCharacters name)
  let name := applyIf o.capitalizeRecordNames upperFirst name
  applyIf o.camelCaseRecordNames (camelCase ·) name

/-- The name of a record, and whether its singular is a guess. -/
def recordName (name : String) : String × Bool :=
  let stem := o.recordStem name
  if o.singularizeRecordNames then
    let inflected := Inflection.inflect Inflection.singularRules stem
    (inflected.word, inflected.isGuess)
  else (stem, false)

def propertyName (name : String) : String :=
  let name := applyIf (o.stripsMark name) lowerTail name
  let name := toIdentifier (o.replaceCharacters name)
  let name := applyIf o.foldCapitalRuns foldUpperRuns name
  let name := applyIf o.decapitalizePropertyNames lowerFirst name
  if o.camelCasePropertyNames then
    -- tokens of one letter join into new runs of capitals
    applyIf o.foldCapitalRuns foldUpperRuns (camelCase name)
  else name

end Options

end RecordLoom.Naming
