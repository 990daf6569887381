import Mathlib.Data.List.DropRight
import Mathlib.Data.List.Basic
import Mathlib.Data.List.Infix

/-! # Go's `strings` package

The four functions of `strings` that the operator calls, over the character
list of a string. Every separator and cutset the operator passes is one ASCII
character, so `Split` and `LastIndex` take a `Char`; since an ASCII character
never occurs inside a multi-byte UTF-8 sequence, counting characters instead of
bytes changes no index comparison the operator makes. `ToLower` takes the
Unicode case table `unicode.ToLower` as a parameter. -/

namespace CnwanOperator.Strings

/-- `strings.Split(s, sep)`: the pieces between the separators, one more piece
than there are separators. -/
def split (s : String) (sep : Char) : List String :=
  (s.data.splitOn sep).map String.mk

/-- `strings.Trim(s, cutset)`: drop every leading and every trailing character
that occurs in `cutset`. -/
def trim (s cutset : String) : String :=
  ⟨(s.data.dropWhile (· ∈ cutset.data)).rdropWhile (· ∈ cutset.data)⟩

/-- Position of the last `sep` in a character list, if there is one. -/
def lastIndexOf (sep : Char) : List Char → Option Nat
  | [] => none
  | c :: rest =>
      match lastIndexOf sep rest with
      | some index => some (index + 1)
      | none => if c = sep then some 0 else none

/-- `strings.LastIndex(s, sep)`: the index of the last `sep`, or `-1`. -/
def lastIndex (s : String) (sep : Char) : Int :=
  match lastIndexOf sep s.data with
  | some index => index
  | none => -1

/-- `strings.ToLower(s)`: a string of ASCII runes only has its letters `A`–`Z`
lowered; any other string has every rune mapped by `unicode.ToLower`. -/
def toLower (unicodeToLower : Char → Char) (s : String) : String :=
  if s.data.all (·.toNat < 0x80) then ⟨s.data.map Char.toLower⟩
  else ⟨s.data.map unicodeToLower⟩

/-! ## Splitting on one character -/

private theorem not_mem_of_mem_splitOn {sep : Char} :
    ∀ {chars piece : List Char}, piece ∈ chars.splitOn sep → sep ∉ piece
  | [], piece, member => by simp_all [List.splitOn]
  | c :: rest, piece, member => by
      have inRest : ∀ {piece}, piece ∈ rest.splitOn sep → sep ∉ piece := not_mem_of_mem_splitOn
      obtain ⟨first, others, pieces⟩ :=
        List.exists_cons_of_ne_nil (List.splitOnP_ne_nil (· == sep) rest)
      by_cases separator : c = sep
      · simp only [List.splitOn, List.splitOnP_cons, separator, beq_self_eq_true, if_true,
          List.mem_cons] at member
        rcases member with rfl | member
        · exact List.not_mem_nil _
        · exact inRest member
      · simp only [List.splitOn, List.splitOnP_cons, beq_iff_eq, separator, if_false, pieces,
          List.modifyHead_cons, List.mem_cons] at member
        have inPieces : ∀ {piece}, piece ∈ first :: others → sep ∉ piece := fun member =>
          inRest (by simpa only [List.splitOn, pieces] using member)
        rcases member with rfl | member
        · exact List.not_mem_cons_of_ne_of_not_mem (Ne.symm separator)
            (inPieces (List.mem_cons_self _ _))
        · exact inPieces (List.mem_cons_of_mem _ member)

theorem splitOn_eq_pair {sep : Char} {chars before after : List Char} :
    chars.splitOn sep = [before, after] ↔
      chars = before ++ sep :: after ∧ sep ∉ before ∧ sep ∉ after := by
  constructor
  · intro split
    have joined : [sep].intercalate (chars.splitOn sep) = chars :=
      List.intercalate_splitOn chars sep
    rw [split] at joined
    exact ⟨by simpa [List.intercalate] using joined.symm,
      not_mem_of_mem_splitOn (by rw [split]; simp), not_mem_of_mem_splitOn (by rw [split]; simp)⟩
  · rintro ⟨rfl, beforeFree, afterFree⟩
    have noSepBefore : ∀ c ∈ before, ¬(c == sep) = true := fun c member equal =>
      beforeFree (by rwa [← beq_iff_eq.mp equal])
    have noSepAfter : ∀ c ∈ after, ¬(c == sep) = true := fun c member equal =>
      afterFree (by rwa [← beq_iff_eq.mp equal])
    rw [List.splitOn, List.splitOnP_first _ _ noSepBefore sep (by simp),
      List.splitOnP_eq_single _ _ noSepAfter]

theorem split_ne_nil (s : String) (sep : Char) : split s sep ≠ [] := by
  simpa [split, List.splitOn] using List.splitOnP_ne_nil (· == sep) s.data

theorem split_eq_pair {s before after : String} {sep : Char} :
    split s sep = [before, after] ↔
      s = before ++ ⟨[sep]⟩ ++ after ∧ sep ∉ before.data ∧ sep ∉ after.data := by
  have onChars : split s sep = [before, after] ↔
      s.data.splitOn sep = [before.data, after.data] := by
    constructor
    · intro pieces
      simpa [split, List.map_map, Function.comp_def] using congrArg (List.map String.data) pieces
    · intro pieces
      simp [split, pieces]
  rw [onChars, splitOn_eq_pair, String.ext_iff]
  simp

theorem append_cons_cancel_of_not_mem {sep : Char} :
    ∀ {before before' after after' : List Char}, sep ∉ before → sep ∉ before' →
      before ++ sep :: after = before' ++ sep :: after' → before = before' ∧ after = after'
  | [], [], _, _, _, _, joined => ⟨rfl, (List.cons.inj joined).2⟩
  | [], c :: _, _, _, _, notIn', joined => by
      obtain ⟨rfl, -⟩ := List.cons.inj joined
      exact absurd (List.mem_cons_self _ _) notIn'
  | c :: _, [], _, _, notIn, _, joined => by
      obtain ⟨rfl, -⟩ := List.cons.inj joined
      exact absurd (List.mem_cons_self _ _) notIn
  | c :: rest, c' :: rest', _, _, notIn, notIn', joined => by
      obtain ⟨rfl, tails⟩ := List.cons.inj joined
      obtain ⟨rfl, rfl⟩ := append_cons_cancel_of_not_mem (List.not_mem_of_not_mem_cons notIn)
        (List.not_mem_of_not_mem_cons notIn') tails
      exact ⟨rfl, rfl⟩

theorem splitOn_append_cons_of_not_mem {sep : Char} {after : List Char} (noSep : sep ∉ after) :
    ∀ before : List Char, (before ++ sep :: after).splitOn sep = before.splitOn sep ++ [after]
  | [] => by
      have single : after.splitOn sep = [after] :=
        List.splitOnP_eq_single _ _ fun c member equal => noSep (beq_iff_eq.mp equal ▸ member)
      simpa [List.splitOn] using single
  | c :: rest => by
      have induction := splitOn_append_cons_of_not_mem noSep rest
      simp only [List.splitOn] at induction ⊢
      rw [List.cons_append, List.splitOnP_cons, List.splitOnP_cons, induction]
      split_ifs
      · rfl
      · obtain ⟨first, others, pieces⟩ :=
          List.exists_cons_of_ne_nil (List.splitOnP_ne_nil (· == sep) rest)
        rw [pieces]
        rfl

theorem split_append_getLastD {sep : Char} (before after : String) (noSep : sep ∉ after.data) :
    (split (before ++ ⟨[sep]⟩ ++ after) sep).getLastD "" = after := by
  rw [split, String.data_append, String.data_append, List.append_assoc, List.singleton_append,
    splitOn_append_cons_of_not_mem noSep, List.map_append, List.getLastD_eq_getLast?,
    List.map_cons, List.map_nil, List.getLast?_concat]
  rfl

/-! ## The last separator -/

theorem lastIndexOf_eq_none {sep : Char} :
    ∀ {chars : List Char}, lastIndexOf sep chars = none ↔ sep ∉ chars
  | [] => by simp [lastIndexOf]
  | c :: rest => by
      have induction := @lastIndexOf_eq_none sep rest
      cases found : lastIndexOf sep rest with
      | none =>
          have notMember := induction.mp found
          by_cases separator : c = sep <;>
            simp [lastIndexOf, found, separator, notMember, Ne.symm]
      | some position =>
          have member : sep ∈ rest := by simpa [found] using induction
          simp [lastIndexOf, found, member]

theorem lastIndexOf_eq_some {sep : Char} :
    ∀ {chars : List Char} {index : Nat}, lastIndexOf sep chars = some index →
      ∃ after, chars = chars.take index ++ sep :: after ∧ sep ∉ after
  | [], _, found => by simp [lastIndexOf] at found
  | c :: rest, index, found => by
      cases inRest : lastIndexOf sep rest with
      | some position =>
          simp only [lastIndexOf, inRest, Option.some.injEq] at found
          subst found
          obtain ⟨after, split, notMember⟩ := lastIndexOf_eq_some inRest
          exact ⟨after, by rw [List.take_succ_cons, List.cons_append, ← split], notMember⟩
      | none =>
          by_cases separator : c = sep
          · simp only [lastIndexOf, inRest, separator, if_true, Option.some.injEq] at found
            subst found separator
            exact ⟨rest, rfl, lastIndexOf_eq_none.mp inRest⟩
          · simp [lastIndexOf, inRest, separator] at found

/-! ## Trimming -/

section Trim

variable {cut : Char → Bool}

theorem exists_around_dropWhile_rdropWhile (chars : List Char) :
    ∃ leading trailing, (∀ c ∈ leading, cut c) ∧ (∀ c ∈ trailing, cut c) ∧
      chars = leading ++ (chars.dropWhile cut).rdropWhile cut ++ trailing := by
  refine ⟨chars.takeWhile cut, (chars.dropWhile cut).rtakeWhile cut,
    fun c member => List.mem_takeWhile_imp member,
    fun c member => List.mem_rtakeWhile_imp member, ?_⟩
  have kept : (chars.dropWhile cut).rdropWhile cut ++
      (chars.dropWhile cut).rtakeWhile cut = chars.dropWhile cut := by
    rw [List.rdropWhile, List.rtakeWhile, ← List.reverse_append,
      List.takeWhile_append_dropWhile, List.reverse_reverse]
  rw [List.append_assoc, kept, List.takeWhile_append_dropWhile]

theorem head_dropWhile_rdropWhile {chars : List Char} {c : Char}
    (head : ((chars.dropWhile cut).rdropWhile cut).head? = some c) : cut c = false := by
  obtain ⟨rest, prefixOf⟩ := List.rdropWhile_prefix (p := cut) (l := chars.dropWhile cut)
  have dropped : (chars.dropWhile cut).head? = some c := by
    rw [← prefixOf, List.head?_append, head]; rfl
  have notCut := List.head?_dropWhile_not cut chars
  rwa [dropped] at notCut

theorem getLast_dropWhile_rdropWhile {chars : List Char} {c : Char}
    (last : ((chars.dropWhile cut).rdropWhile cut).getLast? = some c) : cut c = false := by
  have kept : (chars.dropWhile cut).rdropWhile cut ≠ [] := by
    rintro empty
    simp [empty] at last
  rw [List.getLast?_eq_getLast _ kept, Option.some.injEq] at last
  simpa [last] using List.rdropWhile_last_not cut (chars.dropWhile cut) kept

private theorem dropWhile_of_head {chars : List Char}
    (head : ∀ c ∈ chars.head?, cut c = false) : chars.dropWhile cut = chars := by
  cases chars with
  | nil => rfl
  | cons c rest => exact List.dropWhile_cons_of_neg (by simpa using head c rfl)

theorem dropWhile_rdropWhile_of_ends {leading kept trailing : List Char}
    (leadingCut : ∀ c ∈ leading, cut c) (trailingCut : ∀ c ∈ trailing, cut c)
    (head : ∀ c ∈ kept.head?, cut c = false) (last : ∀ c ∈ kept.getLast?, cut c = false) :
    ((leading ++ kept ++ trailing).dropWhile cut).rdropWhile cut = kept := by
  rw [List.append_assoc, List.dropWhile_append_of_pos leadingCut]
  cases kept with
  | nil => simp [List.dropWhile_eq_nil_iff.mpr trailingCut]
  | cons k rest =>
      have reversedCut : ∀ c ∈ trailing.reverse, cut c := by simpa using trailingCut
      rw [List.cons_append, List.dropWhile_cons_of_neg (by simpa using head k rfl),
        ← List.cons_append, List.rdropWhile, List.reverse_append,
        List.dropWhile_append_of_pos reversedCut,
        dropWhile_of_head (by rwa [List.head?_reverse]), List.reverse_reverse]

theorem dropWhile_rdropWhile_eq_nil {chars : List Char} :
    (chars.dropWhile cut).rdropWhile cut = [] ↔ ∀ c ∈ chars, cut c := by
  constructor
  · intro empty
    obtain ⟨leading, trailing, leadingCut, trailingCut, split⟩ :=
      @exists_around_dropWhile_rdropWhile cut chars
    rw [empty, List.append_nil] at split
    intro c member
    rw [split, List.mem_append] at member
    exact member.elim (leadingCut c) (trailingCut c)
  · intro allCut
    simp [List.dropWhile_eq_nil_iff.mpr allCut]

end Trim

@[simp] theorem data_slash : "/".data = ['/'] := rfl

theorem trim_slash_trim (s : String) :
    trim ("/" ++ trim s "/" ++ "/") "/" = trim s "/" := by
  obtain ⟨rest⟩ := s
  apply String.ext
  apply dropWhile_rdropWhile_of_ends
  · simp
  · simp
  · intro c head
    exact head_dropWhile_rdropWhile head
  · intro c last
    exact getLast_dropWhile_rdropWhile last

end CnwanOperator.Strings
