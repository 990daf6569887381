import CnwanOperator.Go.Strings
import CnwanOperator.Go.Map

/-! # Annotation filtering of the controllers

`filterAnnotations` keeps the annotations of a service that the operator's
filter list selects: by exact key, by `prefix/*` or by `*/name`, or all of
them for `*/*`. -/

namespace CnwanOperator.Controllers

/-- A service's annotations, a Go `map[string]string`. -/
abbrev Annotations := AList (fun _ : String => String)

namespace filterAnnotations

/-- The loop body's decision for one key. `filterMap` is only ever asked
whether it holds a key, so it is the list `filter` itself. -/
def keeps (filter : List String) (key : String) : Bool :=
  key ∈ filter ||
    match Strings.split key '/' with
    | [pfx, name] => pfx ++ "/*" ∈ filter || "*/" ++ name ∈ filter
    | _ => false

/-- One turn of the loop over `currentAnnotations`. -/
def step (filter : List String) (filtered : Annotations) (entry : Σ _ : String, String) :
    Annotations :=
  if keeps filter entry.1 then filtered.insert entry.1 entry.2 else filtered

end filterAnnotations

open filterAnnotations in
/-- `filterAnnotations(currentAnnotations, filter)`; the loop visits the
annotations in the order `order` gives. -/
def filterAnnotations (order : RangeOrder (Σ _ : String, String))
    (currentAnnotations : Annotations) (filter : List String) : Annotations :=
  if "*/*" ∈ filter then currentAnnotations
  else (order.visit currentAnnotations.entries).foldl (step filter) ∅

namespace filterAnnotations

/-- The keys a filter list selects, in the words of the annotation filter's
contract: named verbatim, or split by their only slash into a prefix and a
name that `prefix/*` or `*/name` selects. -/
def Selects (filter : List String) (key : String) : Prop :=
  key ∈ filter ∨ ∃ pfx name, key = pfx ++ "/" ++ name ∧ '/' ∉ pfx.data ∧ '/' ∉ name.data ∧
    (pfx ++ "/*" ∈ filter ∨ "*/" ++ name ∈ filter)

theorem keeps_iff {filter : List String} {key : String} :
    keeps filter key = true ↔ Selects filter key := by
  have pairs : (∃ pfx name, key = pfx ++ "/" ++ name ∧ '/' ∉ pfx.data ∧ '/' ∉ name.data ∧
      (pfx ++ "/*" ∈ filter ∨ "*/" ++ name ∈ filter)) ↔
      ∃ pfx name, Strings.split key '/' = [pfx, name] ∧
        (pfx ++ "/*" ∈ filter ∨ "*/" ++ name ∈ filter) := by
    simp only [Strings.split_eq_pair, and_assoc]
  rw [Selects, pairs, keeps, Bool.or_eq_true, decide_eq_true_eq]
  apply or_congr_right
  rcases Strings.split key '/' with _ | ⟨pfx, _ | ⟨name, _ | ⟨_, _⟩⟩⟩ <;> simp [and_assoc]

instance (filter : List String) (key : String) : Decidable (Selects filter key) :=
  decidable_of_iff _ keeps_iff

example : keeps ["a/*"] "a/b" = true ∧ keeps ["*/c"] "a/b" = false ∧
    keeps ["a/*"] "a/b/c" = false := by decide

@[simp] theorem lookup_step (filter : List String) (filtered : Annotations)
    (entry : Σ _ : String, String) (key : String) :
    (step filter filtered entry).lookup key =
      if entry.1 = key ∧ keeps filter key then some entry.2 else filtered.lookup key := by
  unfold step
  by_cases same : entry.1 = key
  · subst same
    split_ifs <;> simp_all
  · split_ifs <;> simp_all [AList.lookup_insert_ne (Ne.symm same)]

theorem lookup_foldl_step (filter : List String) (key : String) :
    ∀ (entries : List (Σ _ : String, String)) (filtered : Annotations),
      entries.NodupKeys →
      (entries.foldl (step filter) filtered).lookup key =
        if key ∈ entries.keys ∧ keeps filter key then entries.dlookup key
        else filtered.lookup key
  | [], filtered, _ => by simp
  | ⟨entryKey, value⟩ :: rest, filtered, nodup => by
      obtain ⟨notInRest, restNodup⟩ := List.nodupKeys_cons.mp nodup
      rw [List.foldl_cons, lookup_foldl_step filter key rest _ restNodup, lookup_step]
      by_cases same : entryKey = key
      · subst same
        by_cases kept : keeps filter entryKey <;> simp [notInRest, kept, List.dlookup_cons_eq]
      · simp [same, Ne.symm same,
          List.dlookup_cons_ne rest (⟨entryKey, value⟩ : Σ _ : String, String) (Ne.symm same)]

end filterAnnotations

open filterAnnotations

/-- With `*/*` in the filter every annotation is kept; otherwise exactly the
selected keys are, each with its value, whatever order the map is visited in. -/
theorem filterAnnotations_spec (order : RangeOrder (Σ _ : String, String))
    (currentAnnotations : Annotations) (filter : List String) :
    ("*/*" ∈ filter → filterAnnotations order currentAnnotations filter = currentAnnotations) ∧
      ("*/*" ∉ filter → ∀ key,
        (filterAnnotations order currentAnnotations filter).lookup key =
          if Selects filter key then currentAnnotations.lookup key else none) := by
  refine ⟨fun universal => if_pos universal, fun notUniversal key => ?_⟩
  have permuted := order.perm currentAnnotations.entries
  have nodup := currentAnnotations.nodupKeys
  have visitedNodup := (List.perm_nodupKeys permuted).mpr nodup
  have sameKeys : key ∈ (order.visit currentAnnotations.entries).keys ↔ key ∈ currentAnnotations :=
    ((permuted.map Sigma.fst).mem_iff).trans AList.mem_keys.symm
  rw [filterAnnotations, if_neg notUniversal, lookup_foldl_step filter key _ _ visitedNodup,
    List.perm_dlookup key visitedNodup nodup permuted]
  simp only [sameKeys]
  by_cases selected : Selects filter key
  · by_cases present : key ∈ currentAnnotations
    · simp [selected, present, keeps_iff.mpr selected, AList.lookup]
    · simp [selected, present, AList.lookup_eq_none.mpr present]
  · simp [selected, mt keeps_iff.mp selected]

namespace filterAnnotations

/-- The keys `filterAnnotations` keeps: every key for `*/*`, else the selected
ones. -/
def Kept (filter : List String) (key : String) : Prop := "*/*" ∈ filter ∨ Selects filter key

instance (filter : List String) (key : String) : Decidable (Kept filter key) := instDecidableOr

end filterAnnotations

theorem lookup_filterAnnotations (order : RangeOrder (Σ _ : String, String))
    (currentAnnotations : Annotations) (filter : List String) (key : String) :
    (filterAnnotations order currentAnnotations filter).lookup key =
      if Kept filter key then currentAnnotations.lookup key else none := by
  by_cases universal : "*/*" ∈ filter
  · rw [filterAnnotations, if_pos universal, if_pos (show Kept filter key from Or.inl universal)]
  have permuted := order.perm currentAnnotations.entries
  have nodup := currentAnnotations.nodupKeys
  have visitedNodup := (List.perm_nodupKeys permuted).mpr nodup
  have sameKeys : key ∈ (order.visit currentAnnotations.entries).keys ↔ key ∈ currentAnnotations :=
    ((permuted.map Sigma.fst).mem_iff).trans AList.mem_keys.symm
  rw [filterAnnotations, if_neg universal, lookup_foldl_step filter key _ _ visitedNodup,
    List.perm_dlookup key visitedNodup nodup permuted]
  simp only [sameKeys, keeps_iff, Kept, universal, false_or, AList.lookup_empty]
  by_cases present : key ∈ currentAnnotations
  · simp only [present, true_and]
    rfl
  · simp [present, AList.lookup_eq_none.mpr present]

/-- Filtering the filtered annotations again keeps exactly what both filters
keep, with the values of the original map, whichever orders the two loops
visit in; the filter never adds an annotation or changes a value; and
filtering again with the same filter gives back the same map. -/
theorem filterAnnotations_filterAnnotations (order order' : RangeOrder (Σ _ : String, String))
    (currentAnnotations : Annotations) (filter filter' : List String) :
    (∀ key, (filterAnnotations order' (filterAnnotations order currentAnnotations filter)
        filter').lookup key =
      if Kept filter key ∧ Kept filter' key then currentAnnotations.lookup key else none) ∧
    (∀ key value, (filterAnnotations order currentAnnotations filter).lookup key = some value →
      currentAnnotations.lookup key = some value) ∧
    (filterAnnotations order' (filterAnnotations order currentAnnotations filter)
      filter).entries.Perm (filterAnnotations order currentAnnotations filter).entries := by
  have composed : ∀ filter' key, (filterAnnotations order'
      (filterAnnotations order currentAnnotations filter) filter').lookup key =
        if Kept filter key ∧ Kept filter' key then currentAnnotations.lookup key else none :=
    fun filter' key => by
      rw [lookup_filterAnnotations, lookup_filterAnnotations]
      by_cases first : Kept filter key <;> simp [first]
  refine ⟨composed filter', fun key value kept => ?_, List.lookup_ext (AList.nodupKeys _)
    (AList.nodupKeys _) fun key value => iff_of_eq (congrArg (value ∈ ·) ?_)⟩
  · rw [lookup_filterAnnotations] at kept
    exact (Option.ite_none_right_eq_some.mp kept).2
  · have again := composed filter key
    simp only [and_self, ← lookup_filterAnnotations order currentAnnotations filter key] at again
    exact again

end CnwanOperator.Controllers
