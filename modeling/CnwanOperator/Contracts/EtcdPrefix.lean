import CnwanOperator.Command.Etcd.Merge
import CnwanOperator.ServRegistry.Etcd.Utils
import Mathlib.Data.List.Chain

/-! # The shape of an etcd key prefix

Both places that turn a raw prefix into the one etcd keys live under, the
CLI merge and the etcd backend, wrap `strings.Trim(p, "/")` in slashes. The
result always begins and ends with a slash. It has no doubled slash exactly
when the raw prefix is `""` or `"/"`, or has a character other than '/' and no
doubled slash between its trimmed ends: `strings.Trim` keeps the inside of `p`
as it is, and leaves nothing of a prefix made only of slashes. -/

namespace CnwanOperator.Contracts

open Command ServRegistry.Etcd

/-- No two consecutive '/' in a character list. -/
def NoDoubleSlash (chars : List Char) : Prop :=
  chars.Chain' (fun before after => ¬(before = '/' ∧ after = '/'))

/-- The check behind the `Decidable` instance of `NoDoubleSlash`. -/
def noDoubleSlash : List Char → Bool
  | before :: after :: rest => !(before == '/' && after == '/') && noDoubleSlash (after :: rest)
  | _ => true

theorem noDoubleSlash_iff : ∀ chars, noDoubleSlash chars = true ↔ NoDoubleSlash chars
  | [] => by simp [noDoubleSlash, NoDoubleSlash]
  | [_] => by simp [noDoubleSlash, NoDoubleSlash]
  | before :: after :: rest => by
      rw [NoDoubleSlash, List.chain'_cons, ← NoDoubleSlash, ← noDoubleSlash_iff (after :: rest)]
      simp only [noDoubleSlash, Bool.and_eq_true, Bool.not_eq_true', ← Bool.not_eq_true, beq_iff_eq]

instance (chars : List Char) : Decidable (NoDoubleSlash chars) :=
  decidable_of_iff _ (noDoubleSlash_iff chars)

/-- A prefix that begins and ends with '/'. -/
structure SlashDelimited (key : String) : Prop where
  startsWithSlash : key.data.head? = some '/'
  endsWithSlash : key.data.getLast? = some '/'

/-- A prefix of the form `/` or `/segment/.../segment/`: slash-delimited and
with no empty segment. -/
structure WellFormedPrefix (key : String) extends SlashDelimited key : Prop where
  noDoubleSlash : NoDoubleSlash key.data

theorem slashDelimited_wrapped (kept : String) : SlashDelimited ("/" ++ kept ++ "/") :=
  ⟨rfl, by rw [String.data_append, List.getLast?_concat]⟩

theorem wellFormedPrefix_slash : WellFormedPrefix "/" := ⟨⟨rfl, rfl⟩, by decide⟩

theorem wellFormedPrefix_defaultEtcdPrefix : WellFormedPrefix defaultEtcdPrefix :=
  ⟨⟨rfl, rfl⟩, by decide⟩

/-- A raw prefix that the normalisations turn into a well-formed one: `""` and
`"/"`, which both special-case, or one that is not made only of slashes and
has no doubled slash once its ends are trimmed. -/
def ValidRawPrefix (raw : String) : Prop :=
  raw = "" ∨ raw = "/" ∨
    ((∃ c ∈ raw.data, c ≠ '/') ∧ NoDoubleSlash (Strings.trim raw "/").data)

instance (raw : String) : Decidable (ValidRawPrefix raw) :=
  inferInstanceAs (Decidable (_ ∨ _ ∨ (_ ∧ _)))

private theorem noDoubleSlash_wrapped {kept : List Char} (inside : NoDoubleSlash kept)
    (notLeading : ∀ c ∈ kept.head?, c ≠ '/') (notTrailing : ∀ c ∈ kept.getLast?, c ≠ '/')
    (nonEmpty : kept ≠ []) : NoDoubleSlash ('/' :: (kept ++ ['/'])) := by
  obtain ⟨k, rest, rfl⟩ := List.exists_cons_of_ne_nil nonEmpty
  rw [NoDoubleSlash, List.cons_append, List.chain'_cons, ← List.cons_append, List.chain'_append]
  exact ⟨fun both => notLeading k rfl both.2, inside, List.chain'_singleton _,
    fun c last _ _ both => notTrailing c last both.1⟩

theorem wellFormedPrefix_wrapped_iff (raw : String) :
    WellFormedPrefix ("/" ++ Strings.trim raw "/" ++ "/") ↔
      (∃ c ∈ raw.data, c ≠ '/') ∧ NoDoubleSlash (Strings.trim raw "/").data := by
  have wrapped : ("/" ++ Strings.trim raw "/" ++ "/").data =
      '/' :: ((Strings.trim raw "/").data ++ ['/']) := by
    rw [String.data_append, String.data_append, Strings.data_slash,
      List.singleton_append, List.cons_append]
  have kept : (Strings.trim raw "/").data ≠ [] ↔ ∃ c ∈ raw.data, c ≠ '/' := by
    exact (@Strings.dropWhile_rdropWhile_eq_nil (fun c => decide (c ∈ "/".data))
      raw.data).not.trans (by simp)
  constructor
  · intro wellFormed
    have noDouble := wellFormed.noDoubleSlash
    rw [wrapped] at noDouble
    refine ⟨kept.mp fun empty => ?_, noDouble.infix ⟨['/'], ['/'], rfl⟩⟩
    rw [empty] at noDouble
    exact absurd noDouble (by decide)
  · rintro ⟨nonSlash, inside⟩
    refine ⟨slashDelimited_wrapped _, ?_⟩
    rw [wrapped]
    exact noDoubleSlash_wrapped inside
      (fun c head => by simpa using Strings.head_dropWhile_rdropWhile head)
      (fun c last => by simpa using Strings.getLast_dropWhile_rdropWhile last) (kept.mpr nonSlash)

private theorem wrapped_shape {raw : String} (empty : raw ≠ "") (slash : raw ≠ "/") :
    SlashDelimited ("/" ++ Strings.trim raw "/" ++ "/") ∧
      (WellFormedPrefix ("/" ++ Strings.trim raw "/" ++ "/") ↔ ValidRawPrefix raw) := by
  rw [ValidRawPrefix, or_iff_right empty, or_iff_right slash]
  exact ⟨slashDelimited_wrapped _, wellFormedPrefix_wrapped_iff raw⟩

theorem normalizePrefix_shape (raw : String) :
    SlashDelimited (mergeEtcdSettings.normalizePrefix raw) ∧
      (WellFormedPrefix (mergeEtcdSettings.normalizePrefix raw) ↔ ValidRawPrefix raw) := by
  by_cases empty : raw = ""
  · subst empty
    exact ⟨wellFormedPrefix_defaultEtcdPrefix.1,
      iff_of_true wellFormedPrefix_defaultEtcdPrefix (.inl rfl)⟩
  by_cases slash : raw = "/"
  · subst slash
    exact ⟨wellFormedPrefix_slash.1, iff_of_true wellFormedPrefix_slash (.inr (.inl rfl))⟩
  rw [mergeEtcdSettings.normalizePrefix_of_ne empty slash]
  exact wrapped_shape empty slash

theorem parsePrefix_shape (defaultPrefix raw : String) :
    SlashDelimited (parsePrefix defaultPrefix (some raw)) ∧
      (WellFormedPrefix (parsePrefix defaultPrefix (some raw)) ↔ ValidRawPrefix raw) := by
  by_cases special : raw = "" ∨ raw = "/"
  · rw [parsePrefix_of_eq special]
    exact ⟨wellFormedPrefix_slash.1, iff_of_true wellFormedPrefix_slash (special.imp_right .inl)⟩
  obtain ⟨empty, slash⟩ := not_or.mp special
  rw [parsePrefix_of_ne empty slash]
  exact wrapped_shape empty slash

/-- A raw prefix of two or more slashes and nothing else becomes `"//"`: the
special case for `"/"` does not reach it, and trimming leaves nothing. -/
theorem etcdPrefix_of_slashes {raw : String} (empty : raw ≠ "") (slash : raw ≠ "/")
    (allSlash : ∀ c ∈ raw.data, c = '/') (defaultPrefix : String) :
    mergeEtcdSettings.normalizePrefix raw = "//" ∧ parsePrefix defaultPrefix (some raw) = "//" := by
  have trimmed : Strings.trim raw "/" = "" :=
    String.ext (Strings.dropWhile_rdropWhile_eq_nil.mpr (by simpa using allSlash))
  rw [mergeEtcdSettings.normalizePrefix_of_ne empty slash, parsePrefix_of_ne empty slash, trimmed]
  exact ⟨rfl, rfl⟩

/-- Three slashes become two, in the CLI merge and in the etcd backend. -/
theorem etcdPrefix_of_three_slashes :
    mergeEtcdSettings.normalizePrefix "///" = "//" ∧
      parsePrefix defaultEtcdPrefix (some "///") = "//" :=
  etcdPrefix_of_slashes (by decide) (by decide) (by decide) defaultEtcdPrefix

end CnwanOperator.Contracts
