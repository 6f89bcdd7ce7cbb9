import RecordLoom.Proofs.Naming.Additions
import RecordLoom.Proofs.Naming.FirstNames

/-!
# Forced keys

The lone primary key of an entity takes the forced name if no other property has it at that moment:
the properties before the key have their new names by then, those after it their old ones.  So it
depends on the order of the properties whether the key takes the name, unless nobody else wants the
name or has it, or somebody does both.
-/

namespace RecordLoom.Naming

open RecordLoom.Catalog
open RecordLoom.Entity

variable {o : Options} {taken : List String} {wanted : String}

/-! ## Names in a row -/

def Options.givenNames (o : Options) (taken : List String) : List String → List String
  | [] => []
  | name :: rest =>
      let given := freeName (o.propertyName name) taken
      given :: o.givenNames (claim given taken) rest

theorem length_givenNames (taken names : List String) :
    (o.givenNames taken names).length = names.length := by
  induction names generalizing taken with
  | nil => rfl
  | cons name rest ih => simp [Options.givenNames, ih]

theorem mem_givenNames_iff (h : Unnumbered wanted) (hfree : wanted ∉ taken) {names : List String} :
    wanted ∈ o.givenNames taken names ↔ ∃ name ∈ names, o.propertyName name = wanted := by
  induction names generalizing taken with
  | nil => simp [Options.givenNames]
  | cons name rest ih =>
      have hgiven : wanted = freeName (o.propertyName name) taken ↔ o.propertyName name = wanted :=
        eq_comm.trans (freeName_eq_iff h hfree)
      rw [Options.givenNames, List.mem_cons, List.exists_mem_cons_iff, hgiven]
      by_cases hwants : o.propertyName name = wanted
      case pos => simp [hwants]
      case neg => rw [ih (by simp [hfree, mt hgiven.mp hwants])]

theorem freeName_congr {taken taken' : List String} (h : ∀ n, n ∈ taken ↔ n ∈ taken')
    (name : String) : freeName name taken = freeName name taken' := by
  have hcontains (n : String) : taken.contains n = taken'.contains n := by
    rw [Bool.eq_iff_iff, List.contains_iff_mem, List.contains_iff_mem, h n]
  have hsearch (fuel number : Nat) :
      firstFree? name taken fuel number = firstFree? name taken' fuel number := by
    induction fuel generalizing number with
    | zero => rfl
    | succ fuel ih => rw [firstFree?, firstFree?, hcontains, ih]
  rw [freeName, freeName, hcontains, hsearch]

theorem renameProperties_before {e : Entity} {before : List Property}
    (hbefore : ∀ p ∈ before, p.primaryKey = false) (rest : List Property) :
    ∀ (taken : List String) (renamed : List Property), ∃ (named : List Property)
        (taken' : List String),
      renameProperties o e taken renamed (before ++ rest) =
        renameProperties o e taken' (named.reverse ++ renamed) rest ∧
      named.map (·.name) = o.givenNames taken (before.map (·.name)) ∧
      ∀ n, n ∈ taken' ↔ n ∈ taken ∨ n ∈ o.givenNames taken (before.map (·.name)) := by
  induction before with
  | nil => exact fun taken renamed => ⟨[], taken, rfl, rfl, by simp [Options.givenNames]⟩
  | cons p before ih =>
      intro taken renamed
      obtain ⟨hp, hbefore⟩ := List.forall_mem_cons.mp hbefore
      have hname : o.chosenName e taken p (renamed ++ (before ++ rest)) =
          freeName (o.propertyName p.name) taken := by
        rw [Options.chosenName, if_neg]
        intro htakes
        have hforces := (takesForcedName_iff.mp htakes).1
        simp [Options.forces, hp] at hforces
      obtain ⟨named, taken', hrun, hnames, htaken⟩ := ih hbefore
        (claim (freeName (o.propertyName p.name) taken) taken)
        ({ p with name := freeName (o.propertyName p.name) taken } :: renamed)
      refine ⟨{ p with name := freeName (o.propertyName p.name) taken } :: named, taken', ?_, ?_,
        fun n => ?_⟩
      · rw [List.cons_append, renameProperties_cons, hname, hrun]
        simp
      · simp [Options.givenNames, hnames]
      · simp only [htaken, mem_claim, List.map_cons, Options.givenNames, List.mem_cons]
        tauto

/-! ## The name of the key -/

variable (o) in
def Options.keyName (before : List String) (own : String) (after : List String) : String :=
  if o.forcedName ∈ o.givenNames [] before ++ after then
    freeName (o.propertyName own) (o.givenNames [] before)
  else o.forcedName

theorem primaryKey?_eq {e : Entity} {key : Property} (hlone : e.primaryKeys.length = 1)
    (hmem : key ∈ e.properties) (hkey : key.primaryKey = true) : e.primaryKey? = some key := by
  obtain ⟨found, hfound⟩ := List.length_eq_one_iff.mp hlone
  have hkeys : key ∈ e.primaryKeys := List.mem_filter.mpr ⟨hmem, hkey⟩
  obtain rfl : key = found := by simpa [hfound] using hkeys
  rw [Entity.primaryKey?, hfound]

section

variable {e : Entity} {key : Property} {before after : List Property}
  (hsplit : e.properties = before ++ key :: after) (hkey : key.primaryKey = true)
  (hothers : ∀ p ∈ before ++ after, p.primaryKey = false)

include hsplit hkey hothers

theorem length_primaryKeys : e.primaryKeys.length = 1 := by
  have hnone {properties : List Property} (h : ∀ p ∈ properties, p ∈ before ++ after) :
      properties.filter (·.primaryKey) = [] :=
    List.filter_eq_nil_iff.mpr fun p hp => by simp [hothers p (h p hp)]
  rw [Entity.primaryKeys, hsplit, List.filter_append, List.filter_cons, if_pos hkey,
    hnone fun p => List.mem_append_left after, hnone fun p => List.mem_append_right before]
  rfl

variable (hforced : o.forcedName ≠ "")

include hforced

theorem mem_renameProperties_key :
    { key with name := o.keyName (before.map (·.name)) key.name (after.map (·.name)) } ∈
      renameProperties o e [] [] e.properties := by
  have hbefore : ∀ p ∈ before, p.primaryKey = false :=
    fun p hp => hothers p (List.mem_append_left _ hp)
  obtain ⟨named, taken, hrun, hnames, htaken⟩ :=
    renameProperties_before (o := o) (e := e) hbefore (key :: after) [] []
  have hforces : o.forces e key = true := by
    simp [Options.forces, hforced, hkey, Entity.hasCompoundKey,
      length_primaryKeys hsplit hkey hothers]
  have hname : o.chosenName e taken key (named.reverse ++ [] ++ after) =
      o.keyName (before.map (·.name)) key.name (after.map (·.name)) := by
    have htakes : takesForcedName e o.forcedName key (named.reverse ++ [] ++ after) = true ↔
        o.forcedName ∉ o.givenNames [] (before.map (·.name)) ++ after.map (·.name) := by
      rw [takesForcedName_iff, and_iff_right hforces, List.countP_eq_zero, ← hnames]
      simp [or_imp, forall_and]
    have hfree : freeName (o.propertyName key.name) taken =
        freeName (o.propertyName key.name) (o.givenNames [] (before.map (·.name))) :=
      freeName_congr (by simpa using htaken) _
    rw [Options.chosenName, Options.keyName, hfree]
    by_cases hleft : o.forcedName ∈ o.givenNames [] (before.map (·.name)) ++ after.map (·.name)
    case pos => rw [if_pos hleft, if_neg fun h => htakes.mp h hleft]
    case neg => rw [if_neg hleft, if_pos (htakes.mpr hleft)]
  obtain ⟨tail, htail, -⟩ := renameProperties_refines o e after
    (claim (o.keyName (before.map (·.name)) key.name (after.map (·.name))) taken)
    ({ key with name := o.keyName (before.map (·.name)) key.name (after.map (·.name)) } ::
      (named.reverse ++ []))
  rw [hsplit, hrun, renameProperties_cons, hname, htail]
  simp

theorem renameEntity_keyName (taken : Taken) :
    (renameEntity o taken e).1.primaryKey?.map (·.name) =
      some (o.keyName (before.map (·.name)) key.name (after.map (·.name))) := by
  have hlone := congrArg List.length
    (congrArg Entity.primaryKeys (renameEntity_unnamed (o := o) taken e))
  rw [primaryKeys_unnamed, primaryKeys_unnamed, List.length_map, List.length_map,
    length_primaryKeys hsplit hkey hothers] at hlone
  rw [primaryKey?_eq hlone (mem_renameProperties_key hsplit hkey hothers hforced) hkey]
  rfl

end

/-! ## The named model -/

def label (p : Property) : String × Bool := (p.name, p.primaryKey)

theorem getElem?_renameEntities {entities : List Entity} {i : Nat} {e : Entity}
    (h : entities[i]? = some e) (taken : Taken) :
    ∃ taken', ((renameEntities o taken entities).map (·.1))[i]? =
      some (renameEntity o taken' e).1 := by
  induction entities generalizing taken i with
  | nil => cases h
  | cons first rest ih =>
      cases i with
      | zero =>
          obtain rfl : first = e := by simpa using h
          exact ⟨taken, rfl⟩
      | succ i =>
          obtain ⟨taken', hnamed⟩ := ih (by simpa using h) (renameEntity o taken first).2.2
          exact ⟨taken', hnamed⟩

theorem label_assignTypes (e : Entity) :
    (o.assignTypes e).properties.map label = e.properties.map label := by
  simp [Options.assignTypes, Function.comp_def, label]

theorem label_detectForeignKey (destinations : List (String × Destination)) (e : Entity)
    (p : Property) : label (detectForeignKey destinations e p).1 = label p := by
  rcases detectForeignKey_cases destinations e p with hsame | ⟨-, d, hadded⟩
  · rw [hsame]
  · rw [hadded]
    rfl

theorem label_keyEntity (destinations : List (String × Destination)) (e : Entity) :
    (o.keyEntity destinations e).properties.map label = e.properties.map label := by
  unfold Options.keyEntity Options.detectForeignKeys?
  split
  · split
    · simp [Function.comp_def, label_detectForeignKey]
    · rfl
  · rfl

theorem exists_keyed {entities : List Entity} {i : Nat} {e : Entity} (h : entities[i]? = some e)
    (hkeys : e.primaryKeys ≠ []) :
    ∃ keyed, (o.keyed entities)[i]? = some keyed ∧
      keyed.properties.map label = e.properties.map label := by
  refine ⟨o.keyEntity (o.destinations (o.typed entities)) (o.typeEntity e), ?_, ?_⟩
  · rw [keyed_eq_map, List.getElem?_map]
    rw [typed_eq_map, List.getElem?_map, h]
    rfl
  · rw [label_keyEntity, typeEntity_of_keyed o hkeys, label_assignTypes]

variable (o) in
def Options.keyNameAt (db : Database) (i : Nat) : Option String :=
  ((refine o db).entities[i]?.bind Entity.primaryKey?).map (·.name)

theorem keyNameAt_eq (hforced : o.forcedName ≠ "") {db : Database} {i : Nat} {e : Entity}
    (he : db.entities[i]? = some e) {key : Property} {before after : List Property}
    (hsplit : e.properties = before ++ key :: after) (hkey : key.primaryKey = true)
    (hothers : ∀ p ∈ before ++ after, p.primaryKey = false) :
    o.keyNameAt db i =
      some (o.keyName (before.map (·.name)) key.name (after.map (·.name))) := by
  have hlone := length_primaryKeys hsplit hkey hothers
  obtain ⟨keyed, hkeyed, hlabels⟩ := exists_keyed (o := o) he fun hnil => by simp [hnil] at hlone
  obtain ⟨taken, hnamed⟩ := getElem?_renameEntities (o := o) hkeyed .none
  have hrun : o.keyNameAt db i = (renameEntity o taken keyed).1.primaryKey?.map (·.name) := by
    rw [Options.keyNameAt, refine_entities, attach_eq, List.getElem?_map, List.getElem?_zipIdx,
      named_eq, hnamed]
    rfl
  -- The parts of the keyed entity have the labels of the parts of the entity.
  rw [hsplit, List.map_append, List.map_cons] at hlabels
  obtain ⟨before', rest, hkeyedSplit, hbefore, hrest⟩ := List.map_eq_append_iff.mp hlabels
  obtain ⟨key', after', rfl, hkey', hafter⟩ := List.map_eq_cons_iff.mp hrest
  have hnames {properties others : List Property} (h : properties.map label = others.map label) :
      properties.map (·.name) = others.map (·.name) := by
    simpa [label, Function.comp_def] using congrArg (List.map Prod.fst) h
  have hothers' : ∀ p ∈ before' ++ after', p.primaryKey = false := by
    have hlabels : (before' ++ after').map label = (before ++ after).map label := by
      rw [List.map_append, List.map_append, hbefore, hafter]
    intro p hp
    have hmem : label p ∈ (before ++ after).map label := hlabels ▸ List.mem_map_of_mem hp
    obtain ⟨q, hq, hsame⟩ := List.mem_map.mp hmem
    exact (congrArg Prod.snd hsame).symm.trans (hothers q hq)
  have hkeyMark : key'.primaryKey = true := (congrArg Prod.snd hkey').trans hkey
  have hkeyName : key'.name = key.name := congrArg Prod.fst hkey'
  rw [hrun, renameEntity_keyName hkeyedSplit hkeyMark hothers' hforced, hnames hbefore, hnames hafter,
    hkeyName]

/-! ## Orders of properties -/

section

variable (o) (key : Property)

/-- No property before the key wants the forced name, and none after it has the name, unless the key
wants it itself. -/
def Options.LeavesForced (before after : List Property) : Prop :=
  (∀ p ∈ before, o.propertyName p.name ≠ o.forcedName) ∧
    ((∀ p ∈ after, p.name ≠ o.forcedName) ∨ o.propertyName key.name = o.forcedName)

/-- No property wants the forced name, and none has it unless the key wants it itself; or else the
key does not want it, and some property both wants and has it. -/
def Options.Undisputed (others : List Property) : Prop :=
  (∀ p ∈ others, o.propertyName p.name ≠ o.forcedName ∧
      (p.name ≠ o.forcedName ∨ o.propertyName key.name = o.forcedName)) ∨
    o.propertyName key.name ≠ o.forcedName ∧
      ∃ p ∈ others, o.propertyName p.name = o.forcedName ∧ p.name = o.forcedName

variable {key} {before after others : List Property}

theorem keyName_eq_forcedName_iff (h : Unnumbered o.forcedName)
    (hfew : before.length ≤ dedupeLimit) :
    o.keyName (before.map (·.name)) key.name (after.map (·.name)) = o.forcedName ↔
      o.LeavesForced key before after := by
  have hgiven : o.forcedName ∈ o.givenNames [] (before.map (·.name)) ↔
      ∃ p ∈ before, o.propertyName p.name = o.forcedName := by
    rw [mem_givenNames_iff h List.not_mem_nil]
    simp
  unfold Options.keyName Options.LeavesForced
  by_cases hbefore : o.forcedName ∈ o.givenNames [] (before.map (·.name))
  case pos =>
    have hcard : (o.givenNames [] (before.map (·.name))).toFinset.card ≤ dedupeLimit := by
      refine (List.toFinset_card_le _).trans ?_
      rwa [length_givenNames, List.length_map]
    have hother : freeName (o.propertyName key.name) (o.givenNames [] (before.map (·.name))) ≠
        o.forcedName :=
      fun hsame => freeName_not_mem hcard (hsame ▸ hbefore)
    obtain ⟨p, hp, hwants⟩ := hgiven.mp hbefore
    rw [if_pos (List.mem_append_left _ hbefore), iff_false_left hother]
    exact fun hleft => hleft.1 p hp hwants
  case neg =>
    have hnone : ∀ p ∈ before, o.propertyName p.name ≠ o.forcedName :=
      fun p hp hwants => hbefore (hgiven.mpr ⟨p, hp, hwants⟩)
    rw [and_iff_right hnone]
    split
    case isTrue hafter =>
      obtain ⟨p, hp, hname⟩ := List.mem_map.mp ((List.mem_append.mp hafter).resolve_left hbefore)
      rw [freeName_eq_iff h hbefore, or_iff_right fun hnot => hnot p hp hname]
    case isFalse hafter =>
      have hfree : ∀ p ∈ after, p.name ≠ o.forcedName := fun p hp hname =>
        hafter (List.mem_append_right _ (List.mem_map.mpr ⟨p, hp, hname⟩))
      exact iff_of_true rfl (.inl hfree)

/-- In the undisputed cases, the key gets the name just if nobody else wants it. -/
theorem Options.Undisputed.leavesForced_iff {o : Options} (h : o.Undisputed key others)
    (horder : (before ++ after).Perm others) :
    o.LeavesForced key before after ↔ ∀ p ∈ others, o.propertyName p.name ≠ o.forcedName := by
  rcases h with hnone | ⟨hkey, p, hp, hwants, hname⟩
  · have hbefore : ∀ p ∈ before, o.propertyName p.name ≠ o.forcedName :=
      fun p hp => (hnone p (horder.mem_iff.mp (List.mem_append_left _ hp))).1
    refine iff_of_true ⟨hbefore, ?_⟩ fun p hp => (hnone p hp).1
    by_cases hkey : o.propertyName key.name = o.forcedName
    case pos => exact .inr hkey
    case neg =>
      exact .inl fun p hp =>
        (hnone p (horder.mem_iff.mp (List.mem_append_right _ hp))).2.resolve_right hkey
  · refine iff_of_false (fun hleft => ?_) fun hnone => hnone p hp hwants
    rcases List.mem_append.mp (horder.mem_iff.mpr hp) with hbefore | hafter
    · exact hleft.1 p hbefore hwants
    · exact hleft.2.elim (fun hfree => hfree p hafter hname) hkey

theorem undisputed_of_alike
    (h : ∀ before after before' after', (before ++ after).Perm others →
      (before' ++ after').Perm others →
        (o.LeavesForced key before after ↔ o.LeavesForced key before' after')) :
    o.Undisputed key others := by
  have hfirst : o.LeavesForced key [] others ↔ o.LeavesForced key others [] :=
    h [] others others [] .rfl (by rw [List.append_nil])
  by_cases hkey : o.propertyName key.name = o.forcedName
  case pos =>
    -- In front of all others, the key gets the name that it wants.
    have hlast := hfirst.mp ⟨List.forall_mem_nil _, .inr hkey⟩
    exact .inl fun p hp => ⟨hlast.1 p hp, .inr hkey⟩
  case neg =>
    by_cases hboth : ∃ p ∈ others, o.propertyName p.name = o.forcedName ∧ p.name = o.forcedName
    case pos => exact .inr ⟨hkey, hboth⟩
    case neg =>
      -- The key gets the name once those that have it come first.
      let has := fun p : Property => p.name == o.forcedName
      have hmiddle : o.LeavesForced key (others.filter has) (others.filter fun p => !has p) := by
        refine ⟨fun p hp hwants => ?_, .inl fun p hp hname => ?_⟩
        · obtain ⟨hmem, hname⟩ := List.mem_filter.mp hp
          exact hboth ⟨p, hmem, hwants, by simpa [has] using hname⟩
        · simpa [has, hname] using (List.mem_filter.mp hp).2
      have hlast := (h _ _ others [] (List.filter_append_perm has others)
        (by rw [List.append_nil])).mp hmiddle
      have hfront := (hfirst.mpr hlast).2.resolve_right hkey
      exact .inl fun p hp => ⟨hlast.1 p hp, .inl (hfront p hp)⟩

end

/-! ## Forced names -/

/-- A model with the properties of one entity in another order. -/
def reordered (db : Database) (i : Nat) (properties : List Property) : Database :=
  { db with entities := db.entities.modify i fun e => { e with properties } }

/-- How the forced name goes to the lone key of an entity, in every order of the properties. -/
structure ForcedKey (o : Options) (db : Database) (i : Nat) (key : Property)
    (others : List Property) : Prop where
  name : ∀ before after, (before ++ after).Perm others →
    o.keyNameAt (reordered db i (before ++ key :: after)) i =
      some (o.keyName (before.map (·.name)) key.name (after.map (·.name)))
  forced : Unnumbered o.forcedName → others.length ≤ dedupeLimit →
    ∀ before after, (before ++ after).Perm others →
      (o.keyNameAt (reordered db i (before ++ key :: after)) i = some o.forcedName ↔
        o.LeavesForced key before after)
  wanted : Unnumbered o.forcedName → others.length ≤ dedupeLimit →
    ((∀ before after, (before ++ after).Perm others →
      (o.keyNameAt (reordered db i (before ++ key :: after)) i = some o.forcedName ↔
        ∀ p ∈ others, o.propertyName p.name ≠ o.forcedName)) ↔ o.Undisputed key others)
  alike : Unnumbered o.forcedName → others.length ≤ dedupeLimit →
    ((∀ before after before' after', (before ++ after).Perm others →
      (before' ++ after').Perm others →
        (o.keyNameAt (reordered db i (before ++ key :: after)) i = some o.forcedName ↔
          o.keyNameAt (reordered db i (before' ++ key :: after')) i = some o.forcedName)) ↔
      o.Undisputed key others)

theorem forall_others {e : Entity} {key : Property} (hkey : e.primaryKey? = some key)
    {others : List Property} (hsplit : e.properties.Perm (key :: others)) :
    key.primaryKey = true ∧ ∀ p ∈ others, p.primaryKey = false := by
  have hsole := isSoleKey_of_primaryKey? hkey
  rw [Entity.isSoleKey, Bool.and_eq_true, beq_iff_eq, Entity.primaryKeys,
    ← List.countP_eq_length_filter, hsplit.countP_eq, List.countP_cons] at hsole
  refine ⟨hsole.1, ?_⟩
  have hnone : others.countP (·.primaryKey) = 0 := by
    have hcount := hsole.2
    rw [if_pos hsole.1] at hcount
    omega
  simpa using List.countP_eq_zero.mp hnone

/-- The lone key of an entity gets the forced name in some orders of the properties and not in
others, but for the undisputed cases.  In these it gets the name just if no other property wants
it. -/
theorem refine_forcedKey (o : Options) (hforced : o.forcedName ≠ "") (db : Database) (i : Nat)
    (e : Entity) (he : db.entities[i]? = some e) (key : Property) (hkey : e.primaryKey? = some key)
    (others : List Property) (hsplit : e.properties.Perm (key :: others)) :
    ForcedKey o db i key others := by
  obtain ⟨hmark, hothers⟩ := forall_others hkey hsplit
  have hname : ∀ before after, (before ++ after).Perm others →
      o.keyNameAt (reordered db i (before ++ key :: after)) i =
        some (o.keyName (before.map (·.name)) key.name (after.map (·.name))) := by
    intro before after horder
    have hat : (reordered db i (before ++ key :: after)).entities[i]? =
        some { e with properties := before ++ key :: after } := by
      simp [reordered, he]
    exact keyNameAt_eq hforced hat rfl hmark fun p hp => hothers p (horder.mem_iff.mp hp)
  have hleaves : Unnumbered o.forcedName → others.length ≤ dedupeLimit →
      ∀ before after, (before ++ after).Perm others →
        (o.keyNameAt (reordered db i (before ++ key :: after)) i = some o.forcedName ↔
          o.LeavesForced key before after) := by
    intro hplain hfew before after horder
    have hlength := horder.length_eq
    rw [List.length_append] at hlength
    rw [hname before after horder, Option.some_inj, keyName_eq_forcedName_iff o hplain (by omega)]
  refine ⟨hname, hleaves, fun hplain hfew => ⟨fun h => ?_, fun h before after horder => ?_⟩,
    fun hplain hfew => ⟨fun h => ?_, fun h before after before' after' horder horder' => ?_⟩⟩
  · refine undisputed_of_alike o fun before after before' after' horder horder' => ?_
    rw [← hleaves hplain hfew before after horder, ← hleaves hplain hfew before' after' horder',
      h before after horder, h before' after' horder']
  · rw [hleaves hplain hfew before after horder, h.leavesForced_iff horder]
  · refine undisputed_of_alike o fun before after before' after' horder horder' => ?_
    rw [← hleaves hplain hfew before after horder, ← hleaves hplain hfew before' after' horder']
    exact h before after before' after' horder horder'
  · rw [hleaves hplain hfew before after horder, hleaves hplain hfew before' after' horder',
      h.leavesForced_iff horder, h.leavesForced_iff horder']

def badgeSchema : Schema :=
  { Schema.empty with
    tables :=
      [⟨"badge", "",
        [⟨0, "pk", some .integer, false, none, true⟩,
          ⟨1, "person_id", some .integer, false, none, false⟩],
        []⟩] }

def badgeOptions : Options := { Options.default with forcePrimaryKeyName := some "personId" }

theorem badgeSchema_forcedKey :
    ∃ key other, ForcedKey badgeOptions (Database.ofSchema badgeSchema "badges") 0 key [other] :=
  ⟨_, _, refine_forcedKey badgeOptions (by decide) (Database.ofSchema badgeSchema "badges") 0 _ rfl
    _ rfl _ .rfl⟩

example : badgeOptions.keyName [] "pk" ["person_id"] = "personId" ∧
    badgeOptions.keyName ["person_id"] "pk" [] = "pk" := by
  decide +kernel

end RecordLoom.Naming
