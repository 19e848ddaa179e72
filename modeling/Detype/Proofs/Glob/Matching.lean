import Detype.Glob.Match
import Detype.Proofs.Files.Walk
import Mathlib.Data.List.Basic

/-
**What a pattern matches.**

A pattern is matched part by part, and each part leaves ends of the text before it. What can be left of a text does not
depend on which way of matching comes first, nor on what other ways there are.

* `suffix_of_mem_ends` — a part of a pattern leaves an end of the text.
* `Leaves`, `leaves_cons` — what a pattern can leave of a text, from its first part on.
* `leaves_literals` — plain characters take their bytes.
* `belowNamed` — the pattern of all that lies in directories of one name; `matches_belowNamed` — it matches a path if
  one of its components, the last one apart, is that name.
-/

namespace Detype.Glob

open FileTree

/-! ### Ends -/

theorem mem_suffixes {e s : List UInt8} : e ∈ suffixes s ↔ e <:+ s := by
  induction s with
  | nil => rw [suffixes, List.mem_singleton, List.suffix_nil]
  | cons b bs ih => rw [suffixes, List.mem_cons, ih, List.suffix_cons_iff]

theorem suffix_of_mem_afterSlashes {e s : List UInt8} (member : e ∈ afterSlashes s) : e <:+ s := by
  induction s with
  | nil => cases member
  | cons b bs ih =>
    rw [afterSlashes] at member
    split at member
    · rcases List.mem_cons.mp member with rfl | later
      · exact List.suffix_cons ..
      · exact (ih later).trans (List.suffix_cons ..)
    · exact (ih member).trans (List.suffix_cons ..)

theorem mem_afterBytes {bs s e : List UInt8} : e ∈ afterBytes bs s ↔ s = bs ++ e := by
  induction bs generalizing s with
  | nil => rw [afterBytes, List.mem_singleton, List.nil_append, eq_comm]
  | cons b bs ih =>
    cases s with
    | nil => simp [afterBytes]
    | cons c cs =>
      rw [afterBytes]
      by_cases same : b = c
      · rw [if_pos same, ih, List.cons_append, same, List.cons.injEq, eq_self, true_and]
      · rw [if_neg same, List.cons_append, List.cons.injEq]
        exact ⟨fun impossible => absurd impossible List.not_mem_nil, fun both => absurd both.1.symm same⟩

theorem mem_of_mem_distinct {e : List UInt8} {es : List (List UInt8)} (member : e ∈ distinct es) : e ∈ es := by
  induction es with
  | nil => cases member
  | cons a es ih =>
    rw [distinct, List.foldr_cons, ← distinct] at member
    split at member
    · exact List.mem_cons_of_mem a (ih member)
    · rcases List.mem_cons.mp member with rfl | later
      · exact List.mem_cons_self
      · exact List.mem_cons_of_mem a (ih later)

/-- **Of ends of one text none gets lost**: two of the same length are the same. -/
theorem mem_distinct {e whole : List UInt8} {es : List (List UInt8)} (all : ∀ a ∈ es, a <:+ whole) :
    e ∈ distinct es ↔ e ∈ es := by
  refine ⟨mem_of_mem_distinct, fun member => ?_⟩
  induction es with
  | nil => cases member
  | cons a es ih =>
    obtain ⟨first, others⟩ := List.forall_mem_cons.mp all
    rw [distinct, List.foldr_cons, ← distinct]
    split
    · next again =>
      rcases List.mem_cons.mp member with rfl | later
      · obtain ⟨b, listed, same⟩ := List.any_eq_true.mp again
        have ends := others b (mem_of_mem_distinct listed)
        have equal : b = e := ((List.suffix_of_suffix_length_le ends first (by simp_all)).eq_of_length (by simp_all))
        exact equal ▸ listed
      · exact ih others later
    · rcases List.mem_cons.mp member with rfl | later
      · exact List.mem_cons_self
      · exact List.mem_cons_of_mem a (ih others later)

/-! ### Parts leave ends -/

mutual

/-- **A part of a pattern leaves an end of the text.** -/
theorem suffix_of_mem_ends {s e : List UInt8} (t : Token) (member : e ∈ ends s t) : e <:+ s := by
  cases t with
  | literal c =>
    rw [ends, mem_afterBytes] at member
    exact ⟨_, member.symm⟩
  | any =>
    rw [ends] at member
    rw [List.mem_singleton.mp (List.mem_filter.mp member).1]
    exact List.drop_suffix ..
  | star => exact mem_suffixes.mp member
  | anyDirs =>
    rcases List.mem_cons.mp member with rfl | later
    · exact List.suffix_refl _
    · exact suffix_of_mem_afterSlashes later
  | subtree =>
    cases s with
    | nil => cases member
    | cons b bs =>
      simp only [ends] at member
      split at member
      · exact (mem_suffixes.mp member).trans (List.suffix_cons ..)
      · cases member
  | between =>
    cases s with
    | nil => cases member
    | cons b bs =>
      simp only [ends] at member
      split at member
      · rcases List.mem_cons.mp member with rfl | later
        · exact List.suffix_cons ..
        · exact (suffix_of_mem_afterSlashes later).trans (List.suffix_cons ..)
      · cases member
  | set negated ranges =>
    cases s with
    | nil => cases member
    | cons b bs =>
      simp only [ends] at member
      split at member
      · rw [List.mem_singleton.mp member]
        exact List.suffix_cons ..
      · cases member
  | choice branches =>
    rw [ends] at member
    split at member
    · exact List.mem_singleton.mp member ▸ List.suffix_refl s
    · exact suffix_of_mem_branchEnds branches member

theorem suffix_of_mem_branchEnds {s e : List UInt8} (bs : List (List Token)) (member : e ∈ branchEnds s bs) :
    e <:+ s := by
  cases bs with
  | nil => cases member
  | cons b bs =>
    rw [branchEnds] at member
    rcases List.mem_append.mp member with here | later
    · split at here
      · cases here
      · obtain ⟨start, given, left⟩ := suffix_of_mem_seqEnds b here
        rwa [List.mem_singleton.mp given] at left
    · exact suffix_of_mem_branchEnds bs later

theorem suffix_of_mem_seqEnds {starts : List (List UInt8)} {e : List UInt8} (ts : List Token)
    (member : e ∈ seqEnds starts ts) : ∃ s ∈ starts, e <:+ s := by
  cases ts with
  | nil => exact ⟨e, member, List.suffix_refl _⟩
  | cons t ts =>
    rw [seqEnds] at member
    obtain ⟨middle, found, left⟩ := suffix_of_mem_seqEnds ts member
    obtain ⟨s, given, first⟩ := List.mem_flatMap.mp (mem_of_mem_distinct found)
    exact ⟨s, given, left.trans (suffix_of_mem_ends t first)⟩

end

/-! ### What a pattern can leave -/

/-- A pattern can leave an end of a text. -/
def Leaves (ts : List Token) (s e : List UInt8) : Prop := e ∈ seqEnds [s] ts

theorem leaves_nil {s e : List UInt8} : Leaves [] s e ↔ e = s := List.mem_singleton

/-- A first part and then the rest, if the rest leaves from several ends what it leaves from one of them. -/
theorem mem_seqEnds_cons_of {whole e : List UInt8} {t : Token} {ts : List Token}
    (rest : ∀ starts : List (List UInt8), (∀ s ∈ starts, s <:+ whole) →
      (e ∈ seqEnds starts ts ↔ ∃ s ∈ starts, Leaves ts s e))
    {starts : List (List UInt8)} (all : ∀ s ∈ starts, s <:+ whole) :
    e ∈ seqEnds starts (t :: ts) ↔ ∃ s ∈ starts, ∃ middle ∈ ends s t, Leaves ts middle e := by
  have inside : ∀ middle ∈ starts.flatMap fun s => ends s t, middle <:+ whole := by
    intro middle found
    obtain ⟨s, given, first⟩ := List.mem_flatMap.mp found
    exact (suffix_of_mem_ends t first).trans (all s given)
  rw [seqEnds, rest _ fun middle found => inside middle (mem_of_mem_distinct found)]
  simp only [mem_distinct inside, List.mem_flatMap]
  exact ⟨fun ⟨middle, ⟨s, given, first⟩, later⟩ => ⟨s, given, middle, first, later⟩,
    fun ⟨s, given, middle, first, later⟩ => ⟨middle, ⟨s, given, first⟩, later⟩⟩

/-- **From several ends of one text** a pattern leaves what it leaves from one of them. -/
theorem mem_seqEnds {whole e : List UInt8} {starts : List (List UInt8)} (all : ∀ s ∈ starts, s <:+ whole)
    (ts : List Token) : e ∈ seqEnds starts ts ↔ ∃ s ∈ starts, Leaves ts s e := by
  induction ts generalizing starts with
  | nil =>
    simp only [leaves_nil]
    exact ⟨fun member => ⟨e, member, rfl⟩, fun ⟨s, given, same⟩ => same ▸ given⟩
  | cons t ts ih =>
    rw [mem_seqEnds_cons_of (fun starts all => ih all) all]
    refine exists_congr fun s => and_congr_right fun given => ?_
    rw [Leaves, mem_seqEnds_cons_of (fun starts all => ih all) fun s' single =>
      (List.mem_singleton.mp single) ▸ all s given]
    simp only [List.mem_singleton, exists_eq_left]

/-- **A pattern leaves what its rest leaves** of an end that its first part leaves. -/
theorem leaves_cons {t : Token} {ts : List Token} {s e : List UInt8} :
    Leaves (t :: ts) s e ↔ ∃ middle ∈ ends s t, Leaves ts middle e := by
  have only : ∀ s' ∈ [s], s' <:+ s := fun s' single => (List.mem_singleton.mp single) ▸ List.suffix_refl s
  rw [Leaves, mem_seqEnds_cons_of (fun starts all => mem_seqEnds all ts) only]
  simp only [List.mem_singleton, exists_eq_left]

/-! ### Plain characters -/

theorem bytesOf_cons (c : Char) (cs : List Char) :
    Text.bytesOf (String.ofList (c :: cs)) = charBytes c ++ Text.bytesOf (String.ofList cs) := by
  have apart : String.ofList (c :: cs) = String.singleton c ++ String.ofList cs := String.toList_inj.mp (by simp)
  rw [apart]
  show (String.singleton c ++ String.ofList cs).toByteArray.data.toList = _
  rw [String.toByteArray_append]
  simp [charBytes, Text.bytesOf]

/-- **Plain characters take their bytes.** -/
theorem leaves_literals {cs : List Char} {ts : List Token} {s e : List UInt8} :
    Leaves (cs.map .literal ++ ts) s e ↔ ∃ rest, s = Text.bytesOf (String.ofList cs) ++ rest ∧ Leaves ts rest e := by
  induction cs generalizing s with
  | nil =>
    have none : Text.bytesOf (String.ofList []) = [] := by decide
    simp [none]
  | cons c cs ih =>
    rw [List.map_cons, List.cons_append, leaves_cons]
    simp only [ends, mem_afterBytes, ih, bytesOf_cons]
    constructor
    · rintro ⟨middle, rfl, rest, rfl, later⟩
      exact ⟨rest, (List.append_assoc ..).symm, later⟩
    · rintro ⟨rest, rfl, later⟩
      exact ⟨_, List.append_assoc .., rest, rfl, later⟩

/-! ### Directories of one name -/

/-- The pattern of all that lies in directories of one name. -/
def belowNamed (name : String) : List Token := .anyDirs :: (name.toList.map .literal ++ [.subtree])

/-- The pattern takes some directories, then the name and a slash, and whatever comes after that. -/
theorem matchesBytes_belowNamed {name : String} {s : List UInt8} :
    matchesBytes (belowNamed name) s = true ↔
      ∃ start ∈ s :: afterSlashes s, ∃ rest, start = Text.bytesOf name ++ slash :: rest := by
  have subtree : ∀ rest, Leaves [.subtree] rest [] ↔ ∃ after, rest = slash :: after := by
    intro rest
    simp only [leaves_cons, leaves_nil]
    cases rest with
    | nil => simp [ends]
    | cons b bs =>
      simp only [ends]
      split
      · next same => simp [same, mem_suffixes]
      · next other => simp [other]
  have whole : matchesBytes (belowNamed name) s = (seqEnds [s] (belowNamed name)).any List.isEmpty := by
    unfold matchesBytes
    split
    · next lone => simp [belowNamed] at lone
    · rfl
  rw [whole, List.any_eq_true]
  simp only [List.isEmpty_iff]
  rw [exists_eq_right]
  show Leaves (belowNamed name) s [] ↔ _
  rw [belowNamed, leaves_cons]
  simp only [leaves_literals, subtree, String.ofList_toList, ends]
  refine exists_congr fun start => and_congr_right fun _ => ⟨?_, ?_⟩
  · rintro ⟨_, rfl, after, rfl⟩
    exact ⟨after, rfl⟩
  · rintro ⟨after, rfl⟩
    exact ⟨_, rfl, after, rfl⟩

theorem afterSlashes_append {n : List UInt8} (plain : slash ∉ n) (s : List UInt8) :
    afterSlashes (n ++ slash :: s) = s :: afterSlashes s := by
  induction n with
  | nil => rw [List.nil_append, afterSlashes, if_pos rfl]
  | cons b bs ih =>
    rw [List.mem_cons, not_or] at plain
    rw [List.cons_append, afterSlashes, if_neg (Ne.symm plain.1), ih plain.2]

theorem afterSlashes_plain {n : List UInt8} (plain : slash ∉ n) : afterSlashes n = [] := by
  induction n with
  | nil => rfl
  | cons b bs ih =>
    rw [List.mem_cons, not_or] at plain
    rw [afterSlashes, if_neg (Ne.symm plain.1), ih plain.2]

/-- What stands before the first slash. -/
theorem eq_of_first_slash {n n' s s' : List UInt8} (plain : slash ∉ n) (plain' : slash ∉ n')
    (same : n ++ slash :: s = n' ++ slash :: s') : n = n' := by
  rcases List.append_eq_append_iff.mp same with ⟨between, rfl, rest⟩ | ⟨between, rfl, rest⟩
  · cases between with
    | nil => rw [List.append_nil]
    | cons b between =>
      rw [(List.cons.inj rest).1] at plain'
      exact absurd (List.mem_append_right n List.mem_cons_self) plain'
  · cases between with
    | nil => rw [List.append_nil]
    | cons b between =>
      rw [(List.cons.inj rest).1] at plain
      exact absurd (List.mem_append_right n' List.mem_cons_self) plain

theorem bytesOf_intercalate (text text' : String) (rest : List String) :
    Text.bytesOf (String.intercalate "/" (text :: text' :: rest)) =
      Text.bytesOf text ++ slash :: Text.bytesOf (String.intercalate "/" (text' :: rest)) := by
  rw [String.intercalate_cons_cons]
  have byte : "/".toByteArray.data.toList = [slash] := by decide
  show (text ++ "/" ++ _).toByteArray.data.toList = _
  rw [String.toByteArray_append, String.toByteArray_append, ByteArray.data_append, ByteArray.data_append,
    Array.toList_append, Array.toList_append, byte, List.append_assoc]
  rfl

/-- **The pattern matches a path** if one of its components, the last one apart, is the name. The induction is on the
components; the pattern begins at the first of them or after it. -/
theorem matches_belowNamed {name : String} (plain : slash ∉ Text.bytesOf name) {texts : List String}
    (names : ∀ text ∈ texts, slash ∉ Text.bytesOf text) :
    matchesBytes (belowNamed name) (Text.bytesOf (String.intercalate "/" texts)) = true ↔ name ∈ texts.dropLast := by
  rw [matchesBytes_belowNamed]
  induction texts with
  | nil =>
    have none : Text.bytesOf (String.intercalate "/" []) = [] := by decide
    rw [none]
    simp [afterSlashes]
  | cons text texts ih =>
    obtain ⟨first, others⟩ := List.forall_mem_cons.mp names
    cases texts with
    | nil =>
      have single : String.intercalate "/" [text] = text := by simp
      rw [single, afterSlashes_plain first]
      simp only [List.mem_singleton, exists_eq_left, List.dropLast_singleton, List.not_mem_nil, iff_false]
      rintro ⟨rest, same⟩
      rw [same] at first
      exact first (List.mem_append_right _ List.mem_cons_self)
    | cons text' rest =>
      have begins : (∃ after, Text.bytesOf text ++ slash :: Text.bytesOf (String.intercalate "/" (text' :: rest)) =
          Text.bytesOf name ++ slash :: after) ↔ name = text := by
        constructor
        · rintro ⟨after, same⟩
          have pieces : nameOf name.toList = nameOf text.toList := by
            rw [nameOf, nameOf, String.ofList_toList, String.ofList_toList]
            exact (eq_of_first_slash first plain same).symm
          exact String.toList_inj.mp (nameOf_injective pieces)
        · rintro rfl
          exact ⟨_, rfl⟩
      rw [bytesOf_intercalate, afterSlashes_append first, List.dropLast_cons_cons, List.mem_cons, ← ih others,
        List.exists_mem_cons_iff, begins]

end Detype.Glob
