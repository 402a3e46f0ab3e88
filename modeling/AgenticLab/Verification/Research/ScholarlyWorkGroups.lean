import AgenticLab.Model.Research.ScholarlyIdentifiers
import Mathlib.Data.List.Pairwise

/-! # Duplicate works are grouped by chains of common keys -/

namespace AgenticLab.ScholarlyIdentifierNormalizer

open ParentPointers (Forest)

variable {δ : Type} {casefold : Casefold} {works : List (ScholarlyWork δ)}

def SharesKey (pairs : List (ℕ × List String)) (a b : ℕ) : Prop :=
  ∃ key, (a, key) ∈ pairs ∧ (b, key) ∈ pairs

structure Linked (pairs : List (ℕ × List String)) (links : Links) : Prop where
  unowned : ∀ key, links.ownerByKey key = none → ∀ index, (index, key) ∉ pairs
  owned : ∀ key owner, links.ownerByKey key = some owner → (owner, key) ∈ pairs
  classes : links.forest.classes = Relation.EqvGen.setoid (SharesKey pairs)

variable {pairs : List (ℕ × List String)} {links : Links}

theorem linked_start : Linked [] Links.start where
  unowned _ _ _ := List.not_mem_nil
  owned _ _ h := nomatch h
  classes := by
    rw [Links.start, Forest.classes_discrete, eq_comm, eq_bot_iff]
    exact Setoid.eqvGen_le fun _ _ ⟨_, h, _⟩ => absurd h List.not_mem_nil

theorem ownerByKey_add (links : Links) (index : ℕ) (key other : List String) :
    (links.add index key).ownerByKey other =
      if other = key then some ((links.ownerByKey key).getD index) else links.ownerByKey other :=
  Function.update_apply ..

theorem Linked.add (h : Linked pairs links) (index : ℕ) (key : List String) :
    Linked (pairs ++ [(index, key)]) (links.add index key) := by
  have hprevious : ((links.ownerByKey key).getD index, key) ∈ pairs ++ [(index, key)] := by
    cases howner : links.ownerByKey key with
    | none => exact List.mem_append_right _ (List.mem_singleton_self _)
    | some owner => exact List.mem_append_left _ (h.owned key owner howner)
  refine ⟨?_, ?_, ?_⟩
  · intro other hnone place hmem
    rw [ownerByKey_add] at hnone
    split_ifs at hnone with hother
    · rcases List.mem_append.mp hmem with hold | hnew
      · exact h.unowned other hnone place hold
      · exact hother (Prod.mk.inj (List.mem_singleton.mp hnew)).2
  · intro other owner hsome
    rw [ownerByKey_add] at hsome
    split_ifs at hsome with hother
    · obtain rfl := Option.some.inj hsome
      rwa [hother]
    · exact List.mem_append_left _ (h.owned other owner hsome)
  · rw [Links.add, Forest.classes_union h.classes]
    apply le_antisymm
    · apply Setoid.eqvGen_le
      rintro a b (⟨shared, ha, hb⟩ | ⟨rfl, rfl⟩)
      · exact .rel _ _ ⟨shared, List.mem_append_left _ ha, List.mem_append_left _ hb⟩
      · exact .rel _ _ ⟨key, hprevious, List.mem_append_right _ (List.mem_singleton_self _)⟩
    · apply Setoid.eqvGen_le
      -- Whoever has the new key is linked to its owner, and the owner to the new index.
      have hto : ∀ a, (a, key) ∈ pairs ++ [(index, key)] →
          Relation.EqvGen.setoid (fun a b => SharesKey pairs a b ∨
            a = (links.ownerByKey key).getD index ∧ b = index) a index := by
        intro a ha
        rcases List.mem_append.mp ha with hold | hnew
        · cases howner : links.ownerByKey key with
          | none => exact absurd hold (h.unowned key howner a)
          | some owner =>
            exact .trans _ owner _ (.rel _ _ (.inl ⟨key, hold, h.owned key owner howner⟩))
              (.rel _ _ (.inr ⟨rfl, rfl⟩))
        · obtain rfl := (Prod.mk.inj (List.mem_singleton.mp hnew)).1
          exact .refl _
      rintro a b ⟨shared, ha, hb⟩
      by_cases hshared : shared = key
      · subst hshared
        exact .trans _ index _ (hto a ha) (.symm _ _ (hto b hb))
      · have hold : ∀ c, (c, shared) ∈ pairs ++ [(index, key)] → (c, shared) ∈ pairs := by
          intro c hc
          rcases List.mem_append.mp hc with hold | hnew
          · exact hold
          · exact absurd (Prod.mk.inj (List.mem_singleton.mp hnew)).2 hshared
        exact .rel _ _ (.inl ⟨shared, hold a ha, hold b hb⟩)

theorem Linked.addAll (h : Linked pairs links) (index : ℕ) (keys : List (List String)) :
    Linked (pairs ++ keys.map (index, ·)) (keys.foldl (fun links key => links.add index key) links) := by
  induction keys generalizing pairs links with
  | nil => simpa using h
  | cons key keys ih => simpa using ih (h.add index key)

variable (casefold) in
def indexedKeys (indexed : List (ScholarlyWork δ × ℕ)) : List (ℕ × List String) :=
  indexed.flatMap fun entry => (identityKeys casefold entry.1).map (entry.2, ·)

theorem mem_indexedKeys {indexed : List (ScholarlyWork δ × ℕ)} {index : ℕ} {key : List String} :
    (index, key) ∈ indexedKeys casefold indexed ↔
      ∃ work, (work, index) ∈ indexed ∧ key ∈ identityKeys casefold work := by
  simp only [indexedKeys, List.mem_flatMap, List.mem_map, Prod.mk.injEq, Prod.exists]
  constructor
  · rintro ⟨work, place, hmem, shared, hkey, rfl, rfl⟩
    exact ⟨work, hmem, hkey⟩
  · rintro ⟨work, hmem, hkey⟩
    exact ⟨work, index, hmem, key, hkey, rfl, rfl⟩

theorem Linked.linkWorks (h : Linked pairs links) (index : ℕ) (works : List (ScholarlyWork δ)) :
    Linked (pairs ++ indexedKeys casefold (works.zipIdx index))
      (linkWorks casefold index works links) := by
  induction works generalizing index pairs links with
  | nil => simpa [indexedKeys, ScholarlyIdentifierNormalizer.linkWorks] using h
  | cons work works ih =>
    rw [ScholarlyIdentifierNormalizer.linkWorks]
    have hrest := ih (h.addAll index (identityKeys casefold work)) (index + 1)
    rw [List.append_assoc] at hrest
    simpa only [List.zipIdx_cons, indexedKeys, List.flatMap_cons] using hrest

theorem classes_linkWorks (casefold : Casefold) (works : List (ScholarlyWork δ)) :
    (linkWorks casefold 0 works .start).forest.classes =
      Relation.EqvGen.setoid (SharesKey (indexedKeys casefold works.zipIdx)) := by
  have hlinked : Linked ([] ++ indexedKeys casefold works.zipIdx)
      (linkWorks casefold 0 works .start) := linked_start.linkWorks 0 works
  exact hlinked.classes

variable (casefold works) in
def Chain : ScholarlyWork δ → ScholarlyWork δ → Prop :=
  Relation.ReflTransGen fun left right => left ∈ works ∧ right ∈ works ∧
    areScholarlyWorksDuplicates casefold left right = true

variable {left right : ScholarlyWork δ}

theorem areScholarlyWorksDuplicates_iff :
    areScholarlyWorksDuplicates casefold left right = true ↔
      ∃ key, key ∈ identityKeys casefold left ∧ key ∈ identityKeys casefold right := by
  simp [areScholarlyWorksDuplicates]

theorem Chain.symm (h : Chain casefold works left right) : Chain casefold works right left := by
  induction h with
  | refl => exact .refl
  | tail _ hlast ih =>
    obtain ⟨hmiddle, hright, hkeys⟩ := hlast
    obtain ⟨key, hmiddleKey, hrightKey⟩ := areScholarlyWorksDuplicates_iff.mp hkeys
    exact .head ⟨hright, hmiddle,
      areScholarlyWorksDuplicates_iff.mpr ⟨key, hrightKey, hmiddleKey⟩⟩ ih

theorem chain_congr {others : List (ScholarlyWork δ)} (h : others.Perm works) :
    Chain casefold others = Chain casefold works := by
  unfold Chain
  congr 1
  ext left right
  rw [h.mem_iff, h.mem_iff]

theorem sharesKey_iff {i j : ℕ} : SharesKey (indexedKeys casefold works.zipIdx) i j ↔
    ∃ left right, works[i]? = some left ∧ works[j]? = some right ∧
      areScholarlyWorksDuplicates casefold left right = true := by
  simp only [SharesKey, mem_indexedKeys, List.mem_zipIdx_iff_getElem?,
    areScholarlyWorksDuplicates_iff]
  constructor
  · rintro ⟨key, ⟨left, hi, hleft⟩, right, hj, hright⟩
    exact ⟨left, right, hi, hj, key, hleft, hright⟩
  · rintro ⟨left, right, hi, hj, key, hleft, hright⟩
    exact ⟨key, ⟨left, hi, hleft⟩, right, hj, hright⟩

variable {left right : ScholarlyWork δ} {i j : ℕ}

theorem chain_of_eqvGen (h : Relation.EqvGen (SharesKey (indexedKeys casefold works.zipIdx)) i j) :
    ∀ left right, works[i]? = some left → works[j]? = some right →
      Chain casefold works left right := by
  suffices hall : i = j ∨ ∃ left right, works[i]? = some left ∧ works[j]? = some right ∧
      Chain casefold works left right by
    intro left right hi hj
    rcases hall with rfl | ⟨first, last, hfirst, hlast, hchain⟩
    · obtain rfl := Option.some.inj (hi.symm.trans hj)
      exact .refl
    · obtain rfl := Option.some.inj (hi.symm.trans hfirst)
      obtain rfl := Option.some.inj (hj.symm.trans hlast)
      exact hchain
  induction h with
  | rel i j hshares =>
    obtain ⟨left, right, hi, hj, hkey⟩ := sharesKey_iff.mp hshares
    exact .inr ⟨left, right, hi, hj,
      .single ⟨List.mem_of_getElem? hi, List.mem_of_getElem? hj, hkey⟩⟩
  | refl i => exact .inl rfl
  | symm i j _ ih =>
    rcases ih with rfl | ⟨left, right, hi, hj, hchain⟩
    · exact .inl rfl
    · exact .inr ⟨right, left, hj, hi, hchain.symm⟩
  | trans i j k _ _ ihij ihjk =>
    rcases ihij with rfl | ⟨left, middle, hi, hj, hchain⟩
    · exact ihjk
    · rcases ihjk with rfl | ⟨other, right, hother, hk, hrest⟩
      · exact .inr ⟨left, middle, hi, hj, hchain⟩
      · obtain rfl := Option.some.inj (hj.symm.trans hother)
        exact .inr ⟨left, right, hi, hk, hchain.trans hrest⟩

theorem eqvGen_of_chain (hnodup : works.Nodup) (h : Chain casefold works left right) :
    ∀ i j, works[i]? = some left → works[j]? = some right →
      Relation.EqvGen (SharesKey (indexedKeys casefold works.zipIdx)) i j := by
  induction h with
  | refl =>
    intro i j hi hj
    have hlt := (List.getElem?_eq_some_iff.mp hi).1
    obtain rfl := (List.getElem?_inj hlt hnodup).mp (hi.trans hj.symm)
    exact .refl i
  | tail _ hlast ih =>
    intro i j hi hj
    obtain ⟨hmiddle, _, hkey⟩ := hlast
    obtain ⟨k, hk⟩ := List.mem_iff_getElem?.mp hmiddle
    exact .trans _ k _ (ih i k hi hk) (.rel _ _ (sharesKey_iff.mpr ⟨_, _, hk, hj, hkey⟩))

variable {forest : Forest ℕ} {groups : List (ℕ × List (ScholarlyWork δ))}
  {work : ScholarlyWork δ}

/-- The works of `seen`, each with its index, by the roots of their indices. -/
def Collected (root : ℕ → ℕ) (seen : List (ScholarlyWork δ × ℕ))
    (groups : List (ℕ × List (ScholarlyWork δ))) : Prop :=
  Grouping.Grouped (fun entry => root entry.2) Prod.fst seen groups

theorem Collected.collectMembers {seen : List (ScholarlyWork δ × ℕ)}
    (h : Collected forest.root seen groups) (index : ℕ) (works : List (ScholarlyWork δ)) :
    Collected forest.root (seen ++ works.zipIdx index)
      (collectMembers index works forest groups) := by
  induction works generalizing index forest seen groups with
  | nil => simpa [ScholarlyIdentifierNormalizer.collectMembers] using h
  | cons work works ih =>
    have hsame : (forest.find index).2.root = forest.root := funext fun _ => Forest.root_find
    have hnext := h.append (work, index)
    rw [← hsame] at hnext
    have hrest := ih hnext (index + 1)
    rw [hsame, List.append_assoc] at hrest
    rw [← Forest.find_fst] at hrest
    exact hrest

theorem collected (forest : Forest ℕ) (works : List (ScholarlyWork δ)) :
    Collected forest.root works.zipIdx (collectMembers 0 works forest []) :=
  Collected.collectMembers (Grouping.grouped_nil _ _) 0 works

/-! ## The groups -/

variable (casefold works) in
/-- The groups split the works up, keep their order and hold together what a chain connects. -/
structure GroupedByChains (groups : List (List (ScholarlyWork δ))) : Prop where
  perm : groups.flatten.Perm works
  disjoint : groups.Pairwise List.Disjoint
  nonempty : [] ∉ groups
  ordered : ∀ group ∈ groups, group.Sublist works
  together : ∀ left ∈ works, ∀ right ∈ works,
    (∃ group ∈ groups, left ∈ group ∧ right ∈ group) ↔ Chain casefold works left right

def setOfGroups (groups : List (List (ScholarlyWork δ))) : Set (Set (ScholarlyWork δ)) :=
  {members | ∃ group ∈ groups, members = {work | work ∈ group}}

variable {groups : List (List (ScholarlyWork δ))} {group : List (ScholarlyWork δ)}

theorem GroupedByChains.mem (h : GroupedByChains casefold works groups) (hgroup : group ∈ groups)
    (hwork : work ∈ group) : work ∈ works :=
  (h.ordered group hgroup).subset hwork

theorem GroupedByChains.mem_iff (h : GroupedByChains casefold works groups)
    (hgroup : group ∈ groups) (hleft : left ∈ group) :
    right ∈ group ↔ right ∈ works ∧ Chain casefold works left right := by
  have hworks := h.mem hgroup hleft
  constructor
  · intro hright
    have hmem := h.mem hgroup hright
    exact ⟨hmem, (h.together left hworks right hmem).mp ⟨group, hgroup, hleft, hright⟩⟩
  · rintro ⟨hmem, hchain⟩
    obtain ⟨other, hother, hin, hright⟩ := (h.together left hworks right hmem).mpr hchain
    by_cases hsame : other = group
    · exact hsame ▸ hright
    · have hsymm : Std.Symm (@List.Disjoint (ScholarlyWork δ)) := ⟨fun _ _ hd _ hb ha => hd ha hb⟩
      have hapart := h.disjoint.forall hother hgroup hsame
      exact absurd hleft (hapart hin)

theorem GroupedByChains.setOfGroups_eq
    (h : GroupedByChains casefold works groups) : setOfGroups groups =
      {members | ∃ left ∈ works, members = {right | right ∈ works ∧
        Chain casefold works left right}} := by
  ext members
  constructor
  · rintro ⟨group, hgroup, rfl⟩
    obtain ⟨left, hleft⟩ := List.exists_mem_of_ne_nil group (fun hnil => h.nonempty (hnil ▸ hgroup))
    refine ⟨left, h.mem hgroup hleft, ?_⟩
    ext right
    exact h.mem_iff hgroup hleft
  · rintro ⟨left, hleft, rfl⟩
    obtain ⟨group, hgroup, hmem, _⟩ := (h.together left hleft left hleft).mpr .refl
    refine ⟨group, hgroup, ?_⟩
    ext right
    exact (h.mem_iff hgroup hmem).symm

theorem groupedByChains (hnodup : works.Nodup) : GroupedByChains casefold works
    ((collectMembers 0 works (linkWorks casefold 0 works .start).forest []).map Prod.snd) := by
  have hclasses := classes_linkWorks casefold works
  generalize (linkWorks casefold 0 works .start).forest = forest at hclasses ⊢
  have hcollected := collected forest works
  have hperm := hcollected.perm
  rw [List.zipIdx_map_fst] at hperm
  have hmembers : ∀ group ∈ collectMembers 0 works forest [], ∀ work, work ∈ group.2 ↔
      ∃ index, works[index]? = some work ∧ forest.root index = group.1 := by
    intro group hgroup work
    simp [hcollected.members group hgroup, List.mem_zipIdx_iff_getElem?]
  refine ⟨hperm, (List.nodup_flatten.mp (hperm.nodup_iff.mpr hnodup)).2, ?_, ?_, ?_⟩
  · intro hnil
    obtain ⟨group, hgroup, hempty⟩ := List.mem_map.mp hnil
    obtain ⟨entry, hentry, hroot⟩ :=
      (hcollected.keys group.1).mp (List.mem_map_of_mem hgroup)
    have hmem := (hmembers group hgroup entry.1).mpr
      ⟨entry.2, List.mem_zipIdx_iff_getElem?.mp hentry, hroot⟩
    rw [hempty] at hmem
    exact List.not_mem_nil hmem
  · intro members hmem
    obtain ⟨group, hgroup, rfl⟩ := List.mem_map.mp hmem
    rw [hcollected.members group hgroup]
    have hsublist := (List.filter_sublist
      (p := fun entry : ScholarlyWork δ × ℕ => decide (forest.root entry.2 = group.1))
      (l := works.zipIdx)).map Prod.fst
    rwa [List.zipIdx_map_fst] at hsublist
  · intro left hleft right hright
    constructor
    · rintro ⟨members, hmem, hl, hr⟩
      obtain ⟨group, hgroup, rfl⟩ := List.mem_map.mp hmem
      obtain ⟨i, hi, hrootleft⟩ := (hmembers group hgroup left).mp hl
      obtain ⟨j, hj, hrootright⟩ := (hmembers group hgroup right).mp hr
      have hclass : forest.classes i j := hrootleft.trans hrootright.symm
      rw [hclasses] at hclass
      exact chain_of_eqvGen hclass left right hi hj
    · intro hchain
      obtain ⟨i, hi⟩ := List.mem_iff_getElem?.mp hleft
      obtain ⟨j, hj⟩ := List.mem_iff_getElem?.mp hright
      have hclass : forest.classes i j := hclasses ▸ eqvGen_of_chain hnodup hchain i j hi hj
      obtain ⟨group, hgroup, hroot⟩ := List.mem_map.mp ((hcollected.keys (forest.root i)).mpr
        ⟨(left, i), List.mem_zipIdx_iff_getElem?.mpr hi, rfl⟩)
      exact ⟨group.2, List.mem_map_of_mem hgroup,
        (hmembers group hgroup left).mpr ⟨i, hi, hroot.symm⟩,
        (hmembers group hgroup right).mpr ⟨j, hj, hclass.symm.trans hroot.symm⟩⟩

variable (casefold) in
def DistinctIds (works : List (ScholarlyWork δ)) : Prop :=
  (works.map fun work => normalizeId casefold work.workId).Nodup

theorem group_of_distinctIds (h : DistinctIds casefold works) :
    ∃ groups, groupDuplicateScholarlyWorks casefold works = .ok groups ∧
      GroupedByChains casefold works groups := by
  refine ⟨_, ?_, groupedByChains h.of_map⟩
  exact raiseIf_bind_eq_ok.mpr ⟨not_not.mpr h, rfl⟩

theorem group_computes_components (h : DistinctIds casefold works) :
    ∃ groups, groupDuplicateScholarlyWorks casefold works = .ok groups ∧
      GroupedByChains casefold works groups ∧
      ∀ others, others.Perm works →
        ∃ regrouped, groupDuplicateScholarlyWorks casefold others = .ok regrouped ∧
          setOfGroups regrouped = setOfGroups groups := by
  obtain ⟨groups, hgroups, hchains⟩ := group_of_distinctIds h
  refine ⟨groups, hgroups, hchains, ?_⟩
  intro others hperm
  have hdistinct : DistinctIds casefold others := (hperm.map _).nodup_iff.mpr h
  obtain ⟨regrouped, hregrouped, hothers⟩ := group_of_distinctIds hdistinct
  refine ⟨regrouped, hregrouped, ?_⟩
  rw [hothers.setOfGroups_eq, hchains.setOfGroups_eq, chain_congr hperm]
  simp only [hperm.mem_iff]

def workNamed (workId : String) : ScholarlyWork Unit := ⟨workId, [], ()⟩

def arxivWork (workId : String) : ScholarlyWork Unit :=
  ⟨workId, [⟨.arxiv, "2401.00001", none, by decide, isBlank_of_mem_none, by decide⟩], ()⟩

theorem group_computes_components_two :
    DistinctIds asciiCasefold [arxivWork "w1", arxivWork "w2"] ∧
      ∃ groups, groupDuplicateScholarlyWorks asciiCasefold [arxivWork "w1", arxivWork "w2"] =
        .ok groups ∧
        GroupedByChains asciiCasefold [arxivWork "w1", arxivWork "w2"] groups ∧
        ∀ others, others.Perm [arxivWork "w1", arxivWork "w2"] →
          ∃ regrouped, groupDuplicateScholarlyWorks asciiCasefold others = .ok regrouped ∧
            setOfGroups regrouped = setOfGroups groups :=
  have h : DistinctIds asciiCasefold [arxivWork "w1", arxivWork "w2"] := by
    unfold DistinctIds
    decide
  ⟨h, group_computes_components h⟩

/-- Ids that differ only in their case are refused. -/
theorem group_refuses_case : ([workNamed "W1", workNamed "w1"].map fun work => work.workId).Nodup ∧
    groupDuplicateScholarlyWorks asciiCasefold [workNamed "W1", workNamed "w1"] =
      .error ⟨.valueError, "work IDs must be unique"⟩ := by
  constructor
  · decide
  · rfl

end AgenticLab.ScholarlyIdentifierNormalizer
