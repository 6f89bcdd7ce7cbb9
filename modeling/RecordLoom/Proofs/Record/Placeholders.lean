import RecordLoom.Proofs.Catalog.Tokens
import RecordLoom.Proofs.Text.Characters
import RecordLoom.Entity.Projection
import RecordLoom.Record.Statements
import Mathlib.Data.List.Nodup
import Mathlib.Data.List.Perm.Basic

/-!
# Statements and their parameter positions

The text of a statement and the list of its parameter positions are built apart.  They agree: the
placeholder that a property is bound to stands, in the text, for the column of that property.
-/

namespace RecordLoom.Record

open RecordLoom.Catalog
open RecordLoom.Entity

/-! ## Lists of positions -/

section

variable {e : Entity} {bound : List Slot}

structure Selects (e : Entity) (bound : List Slot) : Prop where
  mem : ∀ slot ∈ bound, slot ∈ slots e
  nodup : (bound.map (·.2)).Nodup

theorem selects_slots (e : Entity) : Selects e (slots e) where
  mem := fun _ => id
  nodup := by
    rw [slots, List.zipIdx_map_snd]
    exact List.nodup_range'

theorem Selects.of_sublist {some all : List Slot} (h : Selects e all) (hsub : some.Sublist all) :
    Selects e some where
  mem slot hslot := h.mem slot (hsub.mem hslot)
  nodup := h.nodup.sublist (hsub.map _)

theorem Selects.perm {first second : List Slot} (h : Selects e first)
    (hperm : second.Perm first) : Selects e second where
  mem slot hslot := h.mem slot (hperm.mem_iff.mp hslot)
  nodup := (hperm.map _).nodup_iff.mpr h.nodup

theorem Selects.property (h : Selects e bound) {p : Property} {position : Nat}
    (hmem : (p, position) ∈ bound) : e.properties[position]? = some p :=
  List.mk_mem_zipIdx_iff_getElem?.mp (h.mem _ hmem)

theorem placeholderOf_eq_iff (h : Selects e bound) {position k : Nat} :
    placeholderOf bound position = (k + 1 : Nat) ↔ ∃ p, bound[k]? = some (p, position) := by
  unfold placeholderOf
  cases hfind : bound.findIdx? fun slot => slot.2 == position with
  | none =>
      simp only [unbound]
      constructor
      · omega
      · rintro ⟨p, hp⟩
        have hother := List.findIdx?_eq_none_iff.mp hfind _ (List.mem_of_getElem? hp)
        simp at hother
  | some j =>
      obtain ⟨hj, hat, -⟩ := List.findIdx?_eq_some_iff_getElem.mp hfind
      simp only [beq_iff_eq] at hat
      dsimp only
      constructor
      · intro heq
        obtain rfl : j = k := by omega
        exact ⟨bound[j].1, by rw [List.getElem?_eq_getElem hj, ← hat]⟩
      · rintro ⟨p, hp⟩
        have hplaces : (bound.map (·.2))[j]? = (bound.map (·.2))[k]? := by
          simp [List.getElem?_map, hp, List.getElem?_eq_getElem hj, hat]
        obtain rfl : j = k := (List.getElem?_inj (by simpa using hj) h.nodup).mp hplaces
        simp

theorem placeholderOf_eq_unbound_iff {position : Nat} :
    placeholderOf bound position = unbound ↔ ∀ p, (p, position) ∉ bound := by
  unfold placeholderOf
  cases hfind : bound.findIdx? fun slot => slot.2 == position with
  | none =>
      simp only [true_iff]
      intro p hp
      have hother := List.findIdx?_eq_none_iff.mp hfind _ hp
      simp at hother
  | some j =>
      obtain ⟨hj, hat, -⟩ := List.findIdx?_eq_some_iff_getElem.mp hfind
      simp only [beq_iff_eq] at hat
      simp only [unbound, Int.reduceNeg]
      constructor
      · omega
      · intro hnone
        have hmem : (bound[j].1, position) ∈ bound := by
          rw [← hat]
          exact List.getElem_mem hj
        exact absurd hmem (hnone _)

theorem getElem?_placeholders {position : Nat} {p : Property}
    (h : e.properties[position]? = some p) (bound : List Slot) :
    (placeholders e bound)[position]? = some (placeholderOf bound position) := by
  have hlt := (List.getElem?_eq_some_iff.mp h).1
  simp [placeholders, hlt]

theorem exists_of_placeholderOf_ne_unbound (h : Selects e bound) {position : Nat}
    (hbound : placeholderOf bound position ≠ unbound) :
    ∃ k < bound.length, placeholderOf bound position = (k + 1 : Nat) := by
  obtain ⟨p, hp⟩ := not_forall_not.mp (placeholderOf_eq_unbound_iff.not.mp hbound)
  obtain ⟨k, hk, hat⟩ := List.mem_iff_getElem.mp hp
  refine ⟨k, hk, (placeholderOf_eq_iff h).mpr ⟨p, ?_⟩⟩
  rw [List.getElem?_eq_getElem hk, hat]

/-- The bound properties have the numbers from one on, each once. -/
theorem placeholders_perm (h : Selects e bound) :
    ((placeholders e bound).filter (· ≠ unbound)).Perm
      ((List.range bound.length).map fun k => ((k + 1 : Nat) : Int)) := by
  have hmem : ∀ x, x ∈ (placeholders e bound).filter (· ≠ unbound) ↔
      x ∈ (List.range bound.length).map fun k => ((k + 1 : Nat) : Int) := by
    intro x
    simp only [placeholders, List.mem_filter, List.mem_map, List.mem_range, decide_eq_true_eq]
    constructor
    · rintro ⟨⟨position, -, rfl⟩, hx⟩
      obtain ⟨k, hk, hnumber⟩ := exists_of_placeholderOf_ne_unbound h hx
      exact ⟨k, hk, hnumber.symm⟩
    · rintro ⟨k, hk, rfl⟩
      have hat : bound[k]? = some (bound[k].1, bound[k].2) := List.getElem?_eq_getElem hk
      have hproperty := h.property (List.mem_of_getElem? hat)
      refine ⟨⟨bound[k].2, (List.getElem?_eq_some_iff.mp hproperty).1,
        (placeholderOf_eq_iff h).mpr ⟨_, hat⟩⟩, ?_⟩
      simp only [unbound]
      omega
  have hnumbers : ((List.range bound.length).map fun k => ((k + 1 : Nat) : Int)).Nodup :=
    List.nodup_range.map fun a b heq => by omega
  refine (List.perm_ext_iff_of_nodup ?_ hnumbers).mpr hmem
  -- Two properties with one number would share one place among the bound ones.
  rw [placeholders, List.filter_map]
  refine List.Nodup.map_on ?_ (List.nodup_range.filter _)
  intro i hi j hj heq
  have hbound : placeholderOf bound i ≠ unbound := by simpa using (List.mem_filter.mp hi).2
  obtain ⟨k, -, hnumber⟩ := exists_of_placeholderOf_ne_unbound h hbound
  obtain ⟨p, hp⟩ := (placeholderOf_eq_iff h).mp hnumber
  obtain ⟨q, hq⟩ := (placeholderOf_eq_iff h).mp (heq ▸ hnumber)
  rw [hp] at hq
  exact congrArg Prod.snd (Option.some.inj hq)

end

/-! ## Agreement -/

/-- What ties the list of parameter positions of a statement to its text, of which `owner` tells the
column that a placeholder stands for.  `bound` are the properties that the statement binds, in the
order of their placeholders.  A name is enough to tell columns apart where it is not repeated. -/
structure Binds (e : Entity) (marks : Nat) (owner : Nat → Option String) (indices : List Int)
    (bound : List Slot) : Prop where
  length : indices.length = e.properties.length
  numbers : (indices.filter (· ≠ unbound)).Perm
    ((List.range marks).map fun k => ((k + 1 : Nat) : Int))
  owners : (List.range marks).map owner = bound.map fun slot => some slot.1.column
  used : ∀ (i : Nat) (p : Property), e.properties[i]? = some p →
    (indices[i]? ≠ some unbound ↔ (p, i) ∈ bound)
  entries : ∀ (i k : Nat) (p : Property), e.properties[i]? = some p →
    (indices[i]? = some ((k + 1 : Nat) : Int) ↔ bound[k]? = some (p, i))
  named : (e.properties.map (·.column)).Nodup →
    ∀ (i k : Nat) (p : Property), k < marks → e.properties[i]? = some p →
      (indices[i]? = some ((k + 1 : Nat) : Int) ↔ owner k = some p.column)

theorem owner_of_owners {bound : List Slot} {marks : Nat} {owner : Nat → Option String}
    (howners : (List.range marks).map owner = bound.map fun slot => some slot.1.column)
    {k : Nat} {slot : Slot} (hslot : bound[k]? = some slot) : owner k = some slot.1.column := by
  have hmarks : marks = bound.length := by simpa using congrArg List.length howners
  have hk : k < marks := hmarks ▸ (List.getElem?_eq_some_iff.mp hslot).1
  have hat := congrArg (·[k]?) howners
  simpa [hslot, hk] using hat

theorem binds_of_owners {e : Entity} {bound : List Slot} (h : Selects e bound) {marks : Nat}
    {owner : Nat → Option String}
    (howners : (List.range marks).map owner = bound.map fun slot => some slot.1.column) :
    Binds e marks owner (placeholders e bound) bound := by
  have hmarks : marks = bound.length := by simpa using congrArg List.length howners
  have hentries : ∀ (i k : Nat) (p : Property), e.properties[i]? = some p →
      ((placeholders e bound)[i]? = some ((k + 1 : Nat) : Int) ↔ bound[k]? = some (p, i)) := by
    intro i k p hp
    rw [getElem?_placeholders hp, Option.some.injEq, placeholderOf_eq_iff h]
    constructor
    · rintro ⟨q, hq⟩
      have hsame := (h.property (List.mem_of_getElem? hq)).symm.trans hp
      cases hsame
      exact hq
    · exact fun hslot => ⟨p, hslot⟩
  constructor
  case length => simp [placeholders]
  case numbers => exact hmarks ▸ placeholders_perm h
  case owners => exact howners
  case used =>
    intro i p hp
    rw [getElem?_placeholders hp, ne_eq, Option.some.injEq, placeholderOf_eq_unbound_iff,
      not_forall_not]
    constructor
    · rintro ⟨q, hq⟩
      have hsame := (h.property hq).symm.trans hp
      cases hsame
      exact hq
    · exact fun hmem => ⟨p, hmem⟩
  case entries => exact hentries
  case named =>
    intro hcolumns i k p hk hp
    rw [hentries i k p hp]
    constructor
    · exact owner_of_owners howners
    · intro hcolumn
      obtain ⟨⟨q, j⟩, hslot⟩ : ∃ slot, bound[k]? = some slot :=
        ⟨_, List.getElem?_eq_getElem (hmarks ▸ hk)⟩
      have hq := h.property (List.mem_of_getElem? hslot)
      have hname : q.column = p.column :=
        Option.some.inj ((owner_of_owners howners hslot).symm.trans hcolumn)
      have hplaces : (e.properties.map (·.column))[j]? = (e.properties.map (·.column))[i]? := by
        simp [hq, hp, hname]
      have hj : j < (e.properties.map (·.column)).length := by
        simpa using (List.getElem?_eq_some_iff.mp hq).1
      obtain rfl : j = i := (List.getElem?_inj hj hcolumns).mp hplaces
      cases hq.symm.trans hp
      exact hslot

theorem Binds.owner_of_entry {e : Entity} {marks : Nat} {owner : Nat → Option String}
    {indices : List Int} {bound : List Slot} (h : Binds e marks owner indices bound) {i k : Nat}
    {p : Property} (hp : e.properties[i]? = some p)
    (hentry : indices[i]? = some ((k + 1 : Nat) : Int)) : owner k = some p.column :=
  owner_of_owners h.owners ((h.entries i k p hp).mp hentry)

/-! ## Texts -/

open Sql (Token plainTokens ReadsAs readsAs_plain readsAs_plain_append readsAs_intercalate
  readsAs_quoted tokens)

def columnTokens (bound : List Slot) : List Token :=
  [.symbol ','].intercalate ((bound.map (·.1.column)).map fun x => [.name x])

theorem mem_columnTokens {bound : List Slot} {t : Token} (h : t ∈ columnTokens bound) :
    t = .symbol ',' ∨ ∃ x, t = .name x := by
  rcases Text.mem_intercalate h with h | ⟨item, hitem, h⟩
  · exact .inl (List.mem_singleton.mp h)
  · obtain ⟨x, -, rfl⟩ := List.mem_map.mp hitem
    exact .inr ⟨x, List.mem_singleton.mp h⟩

theorem readsAs_columnList (bound : List Slot) :
    ReadsAs (columnList bound).toList (columnTokens bound) := by
  have hcolumn : ∀ slot, ReadsAs (quotedColumn slot).toList [.name slot.1.column] :=
    fun slot => readsAs_quoted slot.1.column
  have hlist := readsAs_intercalate ", ".toList (by decide) (by decide) hcolumn bound
  rw [columnList, String.toList_intercalate, List.map_map, columnTokens, List.map_map]
  exact hlist

def equationTokens (separator : List Token) (bound : List Slot) : List Token :=
  separator.intercalate
    ((bound.map (·.1.column)).map fun x => [.name x, .symbol '=', .mark])

theorem readsAs_equations (separator : String) (hquote : '"' ∉ separator.toList)
    (hempty : separator.toList ≠ []) (bound : List Slot) :
    ReadsAs (equations separator bound).toList
      (equationTokens (plainTokens separator.toList) bound) := by
  have hequation : ∀ slot : Slot, ReadsAs (quotedColumn slot ++ " = ?").toList
      [.name slot.1.column, .symbol '=', .mark] := by
    intro slot
    rw [String.toList_append]
    exact (readsAs_quoted slot.1.column).append (readsAs_plain " = ?".toList (by decide))
      (by decide)
  have hlist := readsAs_intercalate separator.toList hquote hempty hequation bound
  rw [equations, String.toList_intercalate, List.map_map, equationTokens, List.map_map]
  exact hlist

theorem tokens_insertText {e : Entity} (h : insertedSlots e ≠ []) :
    tokens (Statements.insertText e) =
      plainTokens "INSERT INTO ".toList ++ Token.name e.raw :: Token.symbol '(' ::
        (columnTokens (insertedSlots e) ++ Token.symbol ')' :: (plainTokens "VALUES(".toList ++
          ([Token.symbol ','].intercalate ((insertedSlots e).map fun _ => [Token.mark]) ++
            [Token.symbol ')']))) := by
  have hmark : ∀ slot : Slot, ReadsAs "?".toList [.mark] :=
    fun _ => readsAs_plain "?".toList (by decide)
  have hmarks := readsAs_intercalate ", ".toList (by decide) (by decide) hmark
    (insertedSlots e)
  have hvalues := hmarks.append (readsAs_plain " )".toList (by decide)) (by decide)
  have hcolumns := (readsAs_columnList (insertedSlots e)).append
    (readsAs_plain_append " ) VALUES ( ".toList (by decide) hvalues) (by simp)
  have htable := (readsAs_quoted e.raw).append
    (readsAs_plain_append " ( ".toList (by decide) hcolumns) (by simp)
  have hall := readsAs_plain_append "INSERT INTO ".toList (by decide) htable
  have hne : (insertedSlots e).isEmpty = false := by simpa using h
  refine (Sql.tokens_eq ?_).trans rfl
  simp only [Statements.insertText, hne, Bool.false_eq_true, if_false, String.toList_append,
    String.toList_intercalate, List.append_assoc, List.map_map]
  exact hall

theorem tokens_defaultInsert {e : Entity} (h : insertedSlots e = []) :
    tokens (Statements.insertText e) =
      plainTokens "INSERT INTO ".toList ++ .name e.raw :: plainTokens " DEFAULT VALUES".toList := by
  have htable := (readsAs_quoted e.raw).append
    (readsAs_plain " DEFAULT VALUES".toList (by decide)) (by decide)
  have hall := readsAs_plain_append "INSERT INTO ".toList (by decide) htable
  refine (Sql.tokens_eq ?_).trans rfl
  simp only [Statements.insertText, h, List.isEmpty_nil, if_true, String.toList_append,
    List.append_assoc]
  exact hall

theorem tokens_updateText (e : Entity) :
    tokens (Statements.updateText e) =
      plainTokens "UPDATE ".toList ++ .name e.raw :: (plainTokens " SET ".toList ++
        (equationTokens (plainTokens ", ".toList) (valueSlots e) ++
          (plainTokens " WHERE ".toList ++
            equationTokens (plainTokens " AND ".toList) (keySlots e)))) := by
  have hkeys := readsAs_plain_append " WHERE ".toList (by decide)
    (readsAs_equations " AND " (by decide) (by decide) (keySlots e))
  have hvalues := (readsAs_equations ", " (by decide) (by decide)
    (valueSlots e)).append hkeys (by simp)
  have htable := (readsAs_quoted e.raw).append
    (readsAs_plain_append " SET ".toList (by decide) hvalues) (by simp)
  have hall := readsAs_plain_append "UPDATE ".toList (by decide) htable
  refine (Sql.tokens_eq ?_).trans rfl
  simp only [Statements.updateText, String.toList_append, List.append_assoc]
  exact hall

theorem tokens_deleteText (e : Entity) :
    tokens (Statements.deleteText e) =
      plainTokens "DELETE FROM ".toList ++ .name e.raw :: (plainTokens " WHERE ".toList ++
        equationTokens (plainTokens " AND ".toList) (matchSlots e)) := by
  have htable := (readsAs_quoted e.raw).append
    (readsAs_plain_append " WHERE ".toList (by decide)
      (readsAs_equations " AND " (by decide) (by decide) (matchSlots e))) (by simp)
  have hall := readsAs_plain_append "DELETE FROM ".toList (by decide) htable
  refine (Sql.tokens_eq ?_).trans rfl
  simp only [Statements.deleteText, String.toList_append, List.append_assoc]
  exact hall

/-! ## Owners of placeholders -/

theorem listedNames_insertText (e : Entity) :
    Sql.listedNames (tokens (Statements.insertText e)) =
      (insertedSlots e).map (·.1.column) := by
  by_cases h : insertedSlots e = []
  · rw [tokens_defaultInsert h, h]
    rfl
  · have hbefore : Token.symbol '(' ∉ plainTokens "INSERT INTO ".toList ++ [Token.name e.raw] := by
      rw [List.mem_append, List.mem_singleton, not_or]
      exact ⟨by decide, by simp⟩
    have hinside : Token.symbol ')' ∉ columnTokens (insertedSlots e) := by
      intro hmem
      rcases mem_columnTokens hmem with h | ⟨x, h⟩
      · exact absurd h (by decide)
      · cases h
    have hlisted := Sql.listedNames_eq hbefore hinside
    simp only [List.append_assoc] at hlisted
    rw [tokens_insertText h]
    exact (hlisted _).trans (Sql.filterMap_intercalate rfl _)

theorem markCount_insertText (e : Entity) :
    Sql.markCount (Statements.insertText e) = (insertedSlots e).length := by
  unfold Sql.markCount
  by_cases h : insertedSlots e = []
  · rw [tokens_defaultInsert h, h]
    rfl
  · have hcolumns : (columnTokens (insertedSlots e)).count .mark = 0 := by
      rw [List.count_eq_zero]
      intro hmem
      rcases mem_columnTokens hmem with h | ⟨x, h⟩ <;> cases h
    have hmarks : (List.intercalate [Token.symbol ',']
        ((insertedSlots e).map fun _ => [.mark])).count .mark = (insertedSlots e).length := by
      rw [Sql.count_intercalate (by simp), ← List.flatMap_def, ← List.map_eq_flatMap,
        List.map_const', List.count_replicate_self]
    have hkeyword : (plainTokens "INSERT INTO ".toList).count .mark = 0 := by decide
    have hvalues : (plainTokens "VALUES(".toList).count .mark = 0 := by decide
    rw [tokens_insertText h]
    simp only [List.count_append, List.count_cons, hcolumns, hmarks, hkeyword, hvalues]
    simp

theorem equatedNames_equationTokens (separator : List Char) (h : '?' ∉ separator)
    (bound : List Slot) (rest : List Token) :
    Sql.equatedNames (equationTokens (plainTokens separator) bound ++ rest) =
      (bound.map fun slot => some slot.1.column) ++ Sql.equatedNames rest := by
  rw [equationTokens, Sql.equatedNames_intercalate (Sql.symbol_of_mem_plainTokens h),
    List.map_map]
  rfl

theorem equatedNames_updateText (e : Entity) :
    Sql.equatedNames (tokens (Statements.updateText e)) =
      (valueSlots e ++ keySlots e).map fun slot => some slot.1.column := by
  have hkeys := equatedNames_equationTokens " AND ".toList (by decide) (keySlots e) []
  have hvalues := equatedNames_equationTokens ", ".toList (by decide) (valueSlots e)
    (plainTokens " WHERE ".toList ++ equationTokens (plainTokens " AND ".toList) (keySlots e))
  rw [List.append_nil] at hkeys
  rw [Sql.equatedNames_symbols (Sql.symbol_of_mem_plainTokens (by decide)), hkeys] at hvalues
  rw [tokens_updateText, Sql.equatedNames_opening (by decide) (by decide) (by decide) (by decide)]
  refine hvalues.trans ?_
  simp [Sql.equatedNames]

theorem equatedNames_deleteText (e : Entity) :
    Sql.equatedNames (tokens (Statements.deleteText e)) =
      (matchSlots e).map fun slot => some slot.1.column := by
  have hmatches := equatedNames_equationTokens " AND ".toList (by decide)
    (matchSlots e) []
  rw [List.append_nil] at hmatches
  rw [tokens_deleteText, Sql.equatedNames_opening (by decide) (by decide) (by decide) (by decide),
    hmatches]
  simp [Sql.equatedNames]

theorem range_map_listedOwner (sql : String) {names : List String}
    (h : Sql.listedNames (tokens sql) = names) :
    (List.range names.length).map (Sql.listedOwner sql) = names.map some := by
  refine List.ext_getElem (by simp) fun k hk _ => ?_
  simp only [List.length_map, List.length_range] at hk
  simp [Sql.listedOwner, h, hk]

theorem range_map_equatedOwner (sql : String) {names : List (Option String)}
    (h : Sql.equatedNames (tokens sql) = names) :
    (List.range (Sql.markCount sql)).map (Sql.equatedOwner sql) = names := by
  rw [Sql.markCount, ← Sql.length_equatedNames, h]
  refine List.ext_getElem (by simp) fun k hk _ => ?_
  simp only [List.length_map, List.length_range] at hk
  simp [Sql.equatedOwner, h, hk]

/-! ## The statements of an entity -/

theorem selects_update (e : Entity) :
    (valueSlots e ++ keySlots e).Perm (slots e) ∧ Selects e (valueSlots e ++ keySlots e) := by
  have hperm : (valueSlots e ++ keySlots e).Perm (slots e) := by
    refine List.perm_append_comm.trans ?_
    exact List.filter_append_perm (·.1.primaryKey) (slots e)
  exact ⟨hperm, (selects_slots e).perm hperm⟩

theorem map_keySlots (e : Entity) : (keySlots e).map (·.1) = e.primaryKeys := by
  have hfilter := List.filter_map (f := Prod.fst) (p := Property.primaryKey) (l := slots e)
  rw [slots, List.zipIdx_map_fst] at hfilter
  exact hfilter.symm

theorem matchSlots_eq (e : Entity) :
    matchSlots e = if e.primaryKeys.isEmpty then slots e else keySlots e := by
  rw [← map_keySlots, List.isEmpty_map]
  rfl

theorem selects_match (e : Entity) : Selects e (matchSlots e) := by
  rw [matchSlots_eq]
  split
  · exact selects_slots e
  · exact (selects_slots e).of_sublist List.filter_sublist

theorem insert_binds (e : Entity) :
    Binds e (Sql.markCount (Statements.insertText e)) (Sql.listedOwner (Statements.insertText e))
      (placeholders e (insertedSlots e)) (insertedSlots e) := by
  refine binds_of_owners ((selects_slots e).of_sublist List.filter_sublist) ?_
  have howners := range_map_listedOwner _ (listedNames_insertText e)
  rw [List.length_map, ← markCount_insertText, List.map_map] at howners
  exact howners

theorem update_binds (e : Entity) :
    Binds e (Sql.markCount (Statements.updateText e)) (Sql.equatedOwner (Statements.updateText e))
      (placeholders e (valueSlots e ++ keySlots e)) (valueSlots e ++ keySlots e) :=
  binds_of_owners (selects_update e).2 (range_map_equatedOwner _ (equatedNames_updateText e))

theorem delete_binds (e : Entity) :
    Binds e (Sql.markCount (Statements.deleteText e)) (Sql.equatedOwner (Statements.deleteText e))
      (placeholders e (matchSlots e)) (matchSlots e) :=
  binds_of_owners (selects_match e) (range_map_equatedOwner _ (equatedNames_deleteText e))

theorem when_binds {e : Entity} {text : String} {owner : String → Nat → Option String}
    {bound : List Slot}
    (h : Binds e (Sql.markCount text) (owner text) (placeholders e bound) bound)
    (possible : Bool) :
    (∀ sql, Statements.when possible text = some sql →
      Binds e (Sql.markCount sql) (owner sql) (Statements.indicesWhen possible e bound) bound) ∧
    (Statements.when possible text = none →
      Statements.indicesWhen possible e bound = List.replicate e.properties.length (-1)) := by
  cases possible with
  | false => exact ⟨nofun, fun _ => rfl⟩
  | true =>
      refine ⟨fun sql hsql => ?_, nofun⟩
      cases hsql
      exact h

/-- The statements of an entity agree with their lists of parameter positions.  An insertion binds
what the engine does not assign, an update all properties with the keys last, and a deletion the
keys, or everything where there are none.  A missing statement binds nothing. -/
theorem statements_bind (e : Entity) :
    (∀ sql, (Statements.ofEntity e).insert = some sql →
      Binds e (Sql.markCount sql) (Sql.listedOwner sql) (Statements.ofEntity e).insertIndices
        ((slots e).filter fun slot => !isAssigned e slot.1)) ∧
    (∀ sql, (Statements.ofEntity e).update = some sql →
      Binds e (Sql.markCount sql) (Sql.equatedOwner sql) (Statements.ofEntity e).updateIndices
        (((slots e).filter fun slot => !slot.1.primaryKey) ++
          (slots e).filter fun slot => slot.1.primaryKey) ∧
      (((slots e).filter fun slot => !slot.1.primaryKey) ++
        (slots e).filter fun slot => slot.1.primaryKey).Perm (slots e)) ∧
    (∀ sql, (Statements.ofEntity e).delete = some sql →
      Binds e (Sql.markCount sql) (Sql.equatedOwner sql) (Statements.ofEntity e).deleteIndices
        (if e.primaryKeys.isEmpty then slots e
          else (slots e).filter fun slot => slot.1.primaryKey)) ∧
    ((Statements.ofEntity e).insert = none →
      (Statements.ofEntity e).insertIndices = List.replicate e.properties.length (-1)) ∧
    ((Statements.ofEntity e).update = none →
      (Statements.ofEntity e).updateIndices = List.replicate e.properties.length (-1)) ∧
    ((Statements.ofEntity e).delete = none →
      (Statements.ofEntity e).deleteIndices = List.replicate e.properties.length (-1)) := by
  obtain ⟨hinsert, hnoInsert⟩ := when_binds (insert_binds e) (e.supports .insert)
  obtain ⟨hupdate, hnoUpdate⟩ := when_binds (update_binds e) (Statements.canUpdate e)
  obtain ⟨hdelete, hnoDelete⟩ := when_binds (delete_binds e) (e.supports .delete)
  refine ⟨hinsert, fun sql hsql => ⟨hupdate sql hsql, (selects_update e).1⟩, ?_, hnoInsert,
    hnoUpdate, hnoDelete⟩
  have hmatch : matchSlots e = if e.primaryKeys.isEmpty then slots e
      else (slots e).filter fun slot => slot.1.primaryKey := matchSlots_eq e
  rw [← hmatch]
  exact hdelete

def oddEntity : Entity :=
  .ofObject .empty .table "o\"d?d" ""
    [⟨0, "a\"?", none, true, none, true⟩, ⟨1, "b \"\" = ?", none, false, none, false⟩] []

theorem oddEntity_statements_bind :
    ∃ sql, (Statements.ofEntity oddEntity).update = some sql ∧
      (Statements.ofEntity oddEntity).updateIndices = [2, 1] ∧
      Sql.equatedOwner sql 0 = some "b \"\" = ?" ∧ Sql.equatedOwner sql 1 = some "a\"?" := by
  obtain ⟨hbinds, -⟩ := (statements_bind oddEntity).2.1 _ rfl
  have hindices : (Statements.ofEntity oddEntity).updateIndices = [2, 1] := by decide
  refine ⟨_, rfl, hindices, ?_, ?_⟩
  · exact hbinds.owner_of_entry (i := 1) rfl (by rw [hindices]; rfl)
  · exact hbinds.owner_of_entry (i := 0) rfl (by rw [hindices]; rfl)

end RecordLoom.Record
