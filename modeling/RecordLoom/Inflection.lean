import RecordLoom.Text.Case

/-!
English singulars and plurals of names.  Each direction is an ordered table of rules, and the first
rule that matches the word in lower case decides.  A rule changes the end of the word and keeps the
rest as it is spelled, so `ProductCategories` becomes `ProductCategory`.
-/

namespace RecordLoom.Inflection

open RecordLoom.Text

inductive Rule where
  | irregular (forms : List (String × String))
  /-- Whole words that are their own singular and plural. -/
  | uncountable (words : List String)
  /-- Puts `replacement` for the ending `suffix`.  With `notAfter`, some character other than these
  stands before the ending.  A `fallback` rule guesses. -/
  | ending (suffix replacement : String) (notAfter : Option String) (fallback : Bool)
  /-- Words with this ending stay as they are. -/
  | keep (suffix : String)
  deriving DecidableEq, Repr

namespace Rule

def name : Rule → String
  | irregular _ => "irregular"
  | uncountable _ => "uncountable"
  | ending suffix replacement _ _ => suffix ++ "->" ++ replacement
  | keep suffix => "keep:" ++ suffix

def isFallback : Rule → Bool
  | ending _ _ _ fallback => fallback
  | _ => false

def allowsBefore (excluded suffix lowered : List Char) : Bool :=
  match (lowered.take (lowered.length - suffix.length)).getLast? with
  | some c => !excluded.contains c
  | none => false

def applies (lowered : List Char) : Rule → Bool
  | irregular forms => forms.any (·.1.toList == lowered)
  | uncountable words => words.any (·.toList == lowered)
  | ending suffix _ notAfter _ =>
      suffix.toList.isSuffixOf lowered &&
        notAfter.all fun excluded => allowsBefore excluded.toList suffix.toList lowered
  | keep suffix => suffix.toList.isSuffixOf lowered

def isShouted (word : List Char) : Bool := isAllUpper word && 1 < word.length

def matchSpelling (word form : List Char) : List Char :=
  if isShouted word then upperChars form
  else
    match word, form with
    | w :: _, f :: rest => if isUpper w then upperChars [f] ++ rest else form
    | _, _ => form

def sharedLength : List Char → List Char → Nat
  | a :: as, b :: bs => if a = b then sharedLength as bs + 1 else 0
  | _, _ => 0

/-- The characters that both endings start with keep the spelling of the word. -/
def replaceEnding (suffix replacement word : List Char) : List Char :=
  let shared := sharedLength suffix replacement
  let added := replacement.drop shared
  word.take (word.length - suffix.length + shared) ++
    if isShouted word then upperChars added else added

def change (word : List Char) : Rule → List Char
  | irregular forms =>
      match forms.find? (·.1.toList == lowerChars word) with
      | some (_, form) => matchSpelling word form.toList
      | none => word
  | uncountable _ => word
  | ending suffix replacement _ _ => replaceEnding suffix.toList replacement.toList word
  | keep _ => word

end Rule

def irregularWords : List (String × String) :=
  [("person", "people"), ("man", "men"), ("woman", "women"), ("child", "children"),
   ("sex", "sexes"), ("move", "moves"), ("zombie", "zombies"), ("mouse", "mice"),
   ("louse", "lice"), ("ox", "oxen"), ("axis", "axes"), ("criterion", "criteria")]

def uncountableWords : List String :=
  ["staff", "news", "series", "species", "equipment", "information", "data", "metadata"]

def sisWords : List String :=
  ["analysis", "basis", "crisis", "diagnosis", "ellipsis", "hypothesis", "oasis", "parenthesis",
   "prognosis", "synopsis", "thesis"]

def vowels : String := "aeiou"

def endings (pairs : List (String × String)) : List Rule :=
  pairs.map fun (suffix, replacement) => .ending suffix replacement none false

def singularRules : List Rule :=
  [.irregular (irregularWords.map (fun (one, many) => (many, one)) ++
     irregularWords.map fun (one, _) => (one, one)),
   .uncountable uncountableWords] ++
  endings
    [("octopi", "octopus"), ("viri", "virus"), ("aliases", "alias"), ("statuses", "status"),
     ("buses", "bus"), ("vertices", "vertex"), ("indices", "index"), ("apices", "apex"),
     ("codices", "codex"), ("matrices", "matrix"), ("quizzes", "quiz"), ("databases", "database"),
     ("testes", "testis"), ("shoes", "shoe"), ("movies", "movie")] ++
  sisWords.map (fun word =>
    .ending (.ofList (word.toList.take (word.length - 3)) ++ "ses") word none false) ++
  endings [("strata", "stratum"), ("bacteria", "bacterium"), ("curricula", "curriculum")] ++
  -- words that are singular already
  [.keep "alias", .keep "ss", .keep "us", .keep "is"] ++
  endings
    [("oes", "o"), ("xes", "x"), ("ches", "ch"), ("sses", "ss"), ("shes", "sh"), ("zzes", "zz"),
     ("quies", "quy")] ++
  [.ending "ies" "y" (some vowels) false] ++
  endings [("lves", "lf"), ("rves", "rf"), ("tives", "tive"), ("hives", "hive")] ++
  [.ending "ves" "fe" (some "f") false, .ending "s" "" (some "") true]

def pluralRules : List Rule :=
  [.irregular (irregularWords ++ irregularWords.map fun (_, many) => (many, many)),
   .uncountable uncountableWords] ++
  endings
    [("quiz", "quizzes"), ("matrix", "matrices"), ("vertex", "vertices"), ("index", "indices"),
     ("apex", "apices"), ("codex", "codices"), ("octopus", "octopi"), ("virus", "viri"),
     ("alias", "aliases"), ("status", "statuses"), ("bus", "buses"), ("testis", "testes"),
     ("sis", "ses"), ("datum", "data"), ("stratum", "strata"), ("medium", "media"),
     ("bacterium", "bacteria"), ("curriculum", "curricula"), ("buffalo", "buffaloes"),
     ("tomato", "tomatoes"), ("potato", "potatoes"), ("hero", "heroes"), ("echo", "echoes"),
     ("ch", "ches"), ("sh", "shes"), ("ss", "sses"), ("zz", "zzes"), ("x", "xes"),
     ("quy", "quies")] ++
  [.ending "y" "ies" (some vowels) false] ++
  endings [("lf", "lves"), ("rf", "rves")] ++
  [.ending "fe" "ves" (some "f") false] ++
  endings [("tum", "ta"), ("ium", "ia")] ++
  -- a word on -s is taken to be a plural
  [.keep "s", .ending "" "s" none true]

structure Inflected where
  word : String
  rule : Option Rule
  deriving DecidableEq, Repr

def Inflected.isGuess (i : Inflected) : Bool := i.rule.any Rule.isFallback

/-- The first rule of a table that applies to the word; none applies to the empty word. -/
def selectRule (rules : List Rule) (word : List Char) : Option Rule :=
  if word.isEmpty then none else rules.find? (·.applies (lowerChars word))

def inflect (rules : List Rule) (word : String) : Inflected :=
  match selectRule rules word.toList with
  | some rule => ⟨.ofList (rule.change word.toList), some rule⟩
  | none => ⟨word, none⟩

def singularize (word : String) : String := (inflect singularRules word).word

def pluralize (word : String) : String := (inflect pluralRules word).word

end RecordLoom.Inflection
