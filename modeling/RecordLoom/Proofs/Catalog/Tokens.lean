import RecordLoom.Catalog.Sql
import Mathlib.Data.List.Basic

/-!
# Tokens of SQL statements

A reader of statement text that knows quoted names and placeholders and takes everything else one
character at a time.  A quoted name is read back as it was before it was quoted, whatever it holds.
-/

namespace RecordLoom.Catalog.Sql

inductive Token where
  | name (text : String)
  | mark
  | symbol (c : Char)
  deriving DecidableEq, Repr

def charToken? (c : Char) : Option Token :=
  if c = ' ' then none else if c = '?' then some .mark else some (.symbol c)

/-- The tokens of a text, after the part of a name that has been read, its last character first. -/
def readTokens : Option (List Char) → List Char → List Token
  | none, [] | some _, [] => []
  | none, '"' :: rest => readTokens (some []) rest
  | none, c :: rest => (charToken? c).toList ++ readTokens none rest
  | some name, '"' :: '"' :: rest => readTokens (some ('"' :: name)) rest
  | some name, '"' :: rest => .name (.ofList name.reverse) :: readTokens none rest
  | some name, c :: rest => readTokens (some (c :: name)) rest

def tokens (sql : String) : List Token := readTokens none sql.toList

def markCount (sql : String) : Nat := (tokens sql).count .mark

def Token.name? : Token → Option String
  | name text => some text
  | mark | symbol _ => none

/-- The names in the first round brackets. -/
def listedNames (ts : List Token) : List String :=
  ((ts.dropWhile (· ≠ .symbol '(')).takeWhile (· ≠ .symbol ')')).filterMap Token.name?

def listedOwner (sql : String) (k : Nat) : Option String := (listedNames (tokens sql))[k]?

/-- For each placeholder the name that an equals sign puts it to. -/
def equatedNames : List Token → List (Option String)
  | [] => []
  | .name text :: .symbol '=' :: .mark :: rest => some text :: equatedNames rest
  | .mark :: rest => none :: equatedNames rest
  | .name _ :: rest | .symbol _ :: rest => equatedNames rest

def equatedOwner (sql : String) (k : Nat) : Option String := (equatedNames (tokens sql))[k]?.join

/-! ## Reading what was written -/

def plainTokens (cs : List Char) : List Token := cs.filterMap charToken?

theorem symbol_of_mem_plainTokens {cs : List Char} (h : '?' ∉ cs) :
    ∀ t ∈ plainTokens cs, ∃ c, t = .symbol c := by
  intro t ht
  obtain ⟨c, hc, htoken⟩ := List.mem_filterMap.mp ht
  have hmark : c ≠ '?' := fun heq => h (heq ▸ hc)
  rw [charToken?, if_neg hmark] at htoken
  split at htoken
  · cases htoken
  · exact ⟨c, (Option.some.inj htoken).symm⟩

def ReadsAs (cs : List Char) (ts : List Token) : Prop :=
  ∀ rest : List Char, rest.head? ≠ some '"' →
    readTokens none (cs ++ rest) = ts ++ readTokens none rest

theorem readTokens_plain (cs : List Char) (h : '"' ∉ cs) (rest : List Char) :
    readTokens none (cs ++ rest) = plainTokens cs ++ readTokens none rest := by
  induction cs with
  | nil => rfl
  | cons c cs ih =>
      rw [List.mem_cons, not_or] at h
      have hcons : plainTokens (c :: cs) = (charToken? c).toList ++ plainTokens cs := by
        unfold plainTokens
        rw [List.filterMap_cons]
        cases charToken? c <;> rfl
      rw [List.cons_append, readTokens, ih h.2, hcons, List.append_assoc]
      exact fun hc => h.1 hc.symm

theorem readsAs_plain (cs : List Char) (h : '"' ∉ cs) : ReadsAs cs (plainTokens cs) :=
  fun rest _ => readTokens_plain cs h rest

theorem readTokens_name {rest : List Char} (hrest : rest.head? ≠ some '"') (cs : List Char)
    (before : List Char) :
    readTokens (some before)
        (cs.flatMap (fun c => if c = '"' then ['"', '"'] else [c]) ++ '"' :: rest) =
      .name (.ofList (before.reverse ++ cs)) :: readTokens none rest := by
  induction cs generalizing before with
  | nil =>
      -- The closing quote: a quote after it would make it part of the name.
      cases rest with
      | nil => simp [readTokens]
      | cons c rest =>
          have hc : c ≠ '"' := by simpa using hrest
          simp [readTokens, hc]
  | cons c cs ih =>
      by_cases hc : c = '"'
      · subst hc
        simp [readTokens, ih]
      · simp [readTokens, hc, ih]

theorem readsAs_quoted (name : String) : ReadsAs (quoteIdentifier name).toList [.name name] := by
  intro rest hrest
  have hname := readTokens_name hrest name.toList []
  simp only [quoteIdentifier, String.toList_ofList, quoteChars]
  simpa [readTokens] using hname

theorem ReadsAs.append {cs ds : List Char} {ts us : List Token} (hcs : ReadsAs cs ts)
    (hds : ReadsAs ds us) (hhead : ds.head? ≠ some '"') : ReadsAs (cs ++ ds) (ts ++ us) := by
  intro rest hrest
  have hboth : (ds ++ rest).head? ≠ some '"' := by
    cases ds with
    | nil => exact hrest
    | cons c ds => exact hhead
  rw [List.append_assoc, hcs _ hboth, hds rest hrest, List.append_assoc]

theorem readsAs_plain_append (cs : List Char) (hcs : '"' ∉ cs) {ds : List Char} {us : List Token}
    (hds : ReadsAs ds us) : ReadsAs (cs ++ ds) (plainTokens cs ++ us) := by
  intro rest hrest
  rw [List.append_assoc, readTokens_plain cs hcs, hds rest hrest, List.append_assoc]

theorem readsAs_intercalate {α : Type} (sep : List Char) (hsep : '"' ∉ sep) (hsep' : sep ≠ [])
    {f : α → List Char} {g : α → List Token} (h : ∀ x, ReadsAs (f x) (g x)) (items : List α) :
    ReadsAs (sep.intercalate (items.map f)) ((plainTokens sep).intercalate (items.map g)) := by
  induction items with
  | nil => exact fun _ _ => rfl
  | cons x rest ih =>
      cases rest with
      | nil => simpa using h x
      | cons y rest =>
          simp only [List.map_cons, List.intercalate_cons_cons, List.append_assoc] at ih ⊢
          refine (h x).append (readsAs_plain_append sep hsep ih) ?_
          obtain ⟨c, sep, rfl⟩ := List.exists_cons_of_ne_nil hsep'
          simp only [List.cons_append, List.head?_cons, ne_eq, Option.some.injEq]
          exact fun hc => hsep (hc ▸ List.mem_cons_self)

theorem tokens_eq {sql : String} {ts : List Token} (h : ReadsAs sql.toList ts) :
    tokens sql = ts := by
  have hall := h [] (by simp)
  rw [List.append_nil] at hall
  rw [tokens, hall, readTokens, List.append_nil]

/-! ## Names and placeholders -/

theorem listedNames_eq {before inside : List Token} (hbefore : .symbol '(' ∉ before)
    (hinside : .symbol ')' ∉ inside) (after : List Token) :
    listedNames (before ++ .symbol '(' :: (inside ++ .symbol ')' :: after)) =
      inside.filterMap Token.name? := by
  unfold listedNames
  rw [List.dropWhile_append_of_pos (by
      intro t ht
      simpa using fun h : t = .symbol '(' => hbefore (h ▸ ht)),
    List.dropWhile_cons_of_neg (by simp), List.takeWhile_cons_of_pos (by simp),
    List.takeWhile_append_of_pos (by
      intro t ht
      simpa using fun h : t = .symbol ')' => hinside (h ▸ ht)),
    List.takeWhile_cons_of_neg (by simp), List.append_nil, List.filterMap_cons]
  rfl

theorem count_intercalate {sep : List Token} {t : Token} (hsep : t ∉ sep)
    (items : List (List Token)) :
    (sep.intercalate items).count t = items.flatten.count t := by
  induction items with
  | nil => rfl
  | cons item rest ih =>
      cases rest with
      | nil => simp
      | cons other rest =>
          have hflatten : (item :: other :: rest).flatten = item ++ (other :: rest).flatten := rfl
          rw [List.intercalate_cons_cons, hflatten, List.count_append, List.count_append,
            List.count_append, ih, List.count_eq_zero.mpr hsep, Nat.add_zero]

theorem filterMap_intercalate {sep : List Token} (hsep : sep.filterMap Token.name? = [])
    (names : List String) :
    (sep.intercalate (names.map fun x => [.name x])).filterMap Token.name? = names := by
  induction names with
  | nil => rfl
  | cons x rest ih =>
      cases rest with
      | nil => simp [Token.name?]
      | cons y rest =>
          simp only [List.map_cons, List.intercalate_cons_cons, List.filterMap_append] at ih ⊢
          rw [ih, hsep]
          rfl

theorem length_equatedNames (ts : List Token) : (equatedNames ts).length = ts.count .mark := by
  induction ts using equatedNames.induct with
  | case1 => rfl
  | case2 text rest ih => simp [equatedNames, ih]
  | case3 rest ih => simp [equatedNames, ih]
  | case4 text rest hother ih => simp [equatedNames, ih]
  | case5 c rest ih => simp [equatedNames, ih]

theorem equatedNames_symbols {ts : List Token} (h : ∀ t ∈ ts, ∃ c, t = .symbol c)
    (rest : List Token) : equatedNames (ts ++ rest) = equatedNames rest := by
  induction ts with
  | nil => rfl
  | cons t ts ih =>
      obtain ⟨⟨c, rfl⟩, hts⟩ := List.forall_mem_cons.mp h
      exact ih hts

theorem equatedNames_name {ts : List Token} (h : ts.head? ≠ some (.symbol '=')) (text : String) :
    equatedNames (.name text :: ts) = equatedNames ts := by
  rw [equatedNames]
  rintro rest rfl
  exact h rfl

theorem equatedNames_opening {first second : List Char} (hfirst : '?' ∉ first)
    (hsecond : '?' ∉ second) (hempty : plainTokens second ≠ [])
    (hhead : (plainTokens second).head? ≠ some (.symbol '=')) (table : String)
    (rest : List Token) :
    equatedNames (plainTokens first ++ .name table :: (plainTokens second ++ rest)) =
      equatedNames rest := by
  rw [equatedNames_symbols (symbol_of_mem_plainTokens hfirst), equatedNames_name,
    equatedNames_symbols (symbol_of_mem_plainTokens hsecond)]
  rwa [List.head?_append_of_ne_nil _ hempty]

theorem equatedNames_intercalate {sep : List Token} (hsep : ∀ t ∈ sep, ∃ c, t = .symbol c)
    (names : List String) (rest : List Token) :
    equatedNames (sep.intercalate (names.map fun x => [.name x, .symbol '=', .mark]) ++ rest) =
      names.map some ++ equatedNames rest := by
  induction names with
  | nil => rfl
  | cons x names ih =>
      cases names with
      | nil => simp [equatedNames]
      | cons y names =>
          simp only [List.map_cons, List.intercalate_cons_cons, List.append_assoc,
            List.cons_append, List.nil_append, equatedNames] at ih ⊢
          rw [equatedNames_symbols hsep, ih]

end RecordLoom.Catalog.Sql
