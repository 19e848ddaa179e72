import Detype.Project
import Detype.Proofs.Json.Segments

/-
**Lines of a text without its comments.**

A reader only sees a text without comments and trailing commas, and the line that a failure names is one of that text.
It is the line of the text with comments as long as no line feed was dropped, and the only line feeds that are dropped
are those inside block comments.

* `marked` — the characters of a text, each with whether it stays; `staying` — those that stay.
* `dropped_feed` — a line feed that is dropped lies in a block comment.
* `linePosition_line` — the line of an offset is told by the line feeds before it.
* `lines_stay_iff` — which characters stay on their line, and which line a failure names.
-/

namespace Detype.Json.Commented

/-! ### What stays -/

/-- The characters of segments, each with whether it stays. -/
def marked : List Segment → List (Char × Bool)
  | [] => []
  | s :: ss => s.text.map (·, !isDropped s ss) ++ marked ss

/-- The characters, whether they stay or not. -/
def chars (ms : List (Char × Bool)) : List Char := ms.map (·.1)

/-- The characters that stay. -/
def staying (ms : List (Char × Bool)) : List Char := chars (ms.filter (·.2))

/-- How many line feeds there are. -/
def feeds (cs : List Char) : Nat := cs.count '\n'

theorem chars_append (ms ns : List (Char × Bool)) : chars (ms ++ ns) = chars ms ++ chars ns := List.map_append

theorem staying_append (ms ns : List (Char × Bool)) : staying (ms ++ ns) = staying ms ++ staying ns := by
  rw [staying, List.filter_append, chars_append]
  rfl

theorem chars_map_mark (cs : List Char) (b : Bool) : chars (cs.map (·, b)) = cs := by simp [chars, Function.comp_def]

theorem staying_map_mark (cs : List Char) (b : Bool) : staying (cs.map (·, b)) = if b then cs else [] := by
  cases b <;> simp [staying, chars, Function.comp_def, List.filter_map]

theorem chars_marked (ss : List Segment) : chars (marked ss) = textOf ss := by
  induction ss with
  | nil => rfl
  | cons s ss ih => rw [marked, chars_append, chars_map_mark, ih, textOf_cons]

theorem staying_marked (ss : List Segment) : staying (marked ss) = textOf (kept ss) := by
  induction ss with
  | nil => rfl
  | cons s ss ih =>
    rw [marked, staying_append, staying_map_mark, ih]
    cases dropped : isDropped s ss with
    | true => rw [kept_cons_dropped dropped]; rfl
    | false => rw [kept_cons dropped]; rfl

/-- Line feeds are lost exactly if one is dropped. -/
theorem feeds_staying_iff (ms : List (Char × Bool)) : feeds (staying ms) = feeds (chars ms) ↔ ('\n', false) ∉ ms := by
  induction ms with
  | nil => simp [feeds, staying, chars]
  | cons m ms ih =>
    obtain ⟨c, b⟩ := m
    have less : feeds (staying ms) ≤ feeds (chars ms) := List.Sublist.count_le _ (List.filter_sublist.map _)
    have head : feeds (chars ((c, b) :: ms)) = feeds (chars ms) + if c = '\n' then 1 else 0 := by
      simp [feeds, chars, List.count_cons]
    rw [List.mem_cons, not_or, ← ih, head]
    cases b with
    | true =>
      have stays : feeds (staying ((c, true) :: ms)) = feeds (staying ms) + if c = '\n' then 1 else 0 := by
        simp [feeds, staying, chars, List.count_cons]
      rw [stays]
      simp
    | false =>
      have gone : staying ((c, false) :: ms) = staying ms := by simp [staying, chars]
      rw [gone]
      by_cases feed : c = '\n'
      · simp only [feed, if_true, not_true_eq_false, false_and, iff_false]
        omega
      · simp [feed, Ne.symm feed]

/-! ### What is lost -/

theorem marked_append (front back : List Segment) :
    ∃ ms, marked (front ++ back) = ms ++ marked back ∧ chars ms = textOf front := by
  induction front with
  | nil => exact ⟨[], rfl, rfl⟩
  | cons s front ih =>
    obtain ⟨ms, shape, whole⟩ := ih
    refine ⟨s.text.map (·, !isDropped s (front ++ back)) ++ ms, ?_, ?_⟩
    · rw [List.cons_append, marked, shape, List.append_assoc]
    · rw [chars_append, chars_map_mark, whole, textOf_cons]

/-- **A line feed that is dropped lies in a block comment.** What stays after it are the segments that are kept after
that comment. -/
theorem dropped_feed {cs : List Char} {ss : List Segment} (cut : Cut cs ss) {before after : List (Char × Bool)}
    (shape : marked ss = before ++ ('\n', false) :: after) :
    staying after = [] ∨ ∃ front body back, ss = front ++ .block body :: back ∧ '\n' ∈ body ∧
      staying after = textOf (kept back) := by
  induction cut generalizing before with
  | nil => simp [marked] at shape
  | @cons s cs ss stands later ih =>
    rw [marked] at shape
    rcases List.append_eq_append_iff.mp shape with ⟨more, rfl, rest⟩ | ⟨more, first, rest⟩
    · rcases ih rest with none | ⟨front, body, back, rfl, feed, left⟩
      · exact .inl none
      · exact .inr ⟨s :: front, body, back, rfl, feed, left⟩
    · cases more with
      | nil =>
        rcases ih (rest.symm.trans (List.nil_append _).symm) with none | ⟨front, body, back, rfl, feed, left⟩
        · exact .inl none
        · exact .inr ⟨s :: front, body, back, rfl, feed, left⟩
      | cons m more =>
        obtain ⟨rfl, rfl⟩ := List.cons.inj rest
        have member : ('\n', false) ∈ s.text.map (·, !isDropped s ss) := by rw [first]; simp
        obtain ⟨c, feed, mark⟩ := List.mem_map.mp member
        obtain ⟨rfl, dropped⟩ := Prod.mk.inj mark
        rw [Bool.not_eq_false'] at dropped
        -- The whole segment is dropped, so that only what is kept after it stays.
        have gone : staying more = [] := by
          have all := congrArg staying first
          rw [staying_map_mark, dropped, staying_append] at all
          exact (List.append_eq_nil_iff.mp all.symm).2
        rw [List.append_eq, staying_append, gone, List.nil_append, staying_marked]
        cases s with
        | block body => exact .inr ⟨[], body, ss, rfl, by simpa [Segment.text] using feed, rfl⟩
        | openBlock body =>
          refine .inl ?_
          rw [textOf_eq_nil (later.text_eq.trans stands.2)]
          rfl
        | line body => exact absurd (by simpa [Segment.text] using feed) stands.1
        | string _ | openString _ => cases dropped
        | other c =>
          have comma : c = ',' := by
            rcases Bool.or_eq_true_iff.mp dropped with comment | comma
            · cases comment
            · simpa using (Bool.and_eq_true_iff.mp comma).1
          simp [Segment.text, comma] at feed

/-- A line feed is dropped before something that stays exactly if a block comment with a line feed stands before it. -/
theorem not_dropped_iff {cs : List Char} {ss : List Segment} (cut : Cut cs ss) :
    (∀ before c after, marked ss = before ++ (c, true) :: after → ('\n', false) ∉ before) ↔
      ∀ front body back, ss = front ++ .block body :: back → '\n' ∈ body → kept back = [] := by
  constructor
  · intro none front body back shape feed
    by_contra some
    obtain ⟨ms, split, _⟩ := marked_append front (.block body :: back)
    -- Something stays after the comment.
    have stays : staying (marked back) ≠ [] := by
      rw [staying_marked]
      exact fun empty => some (textOf_eq_nil empty)
    obtain ⟨⟨c, b⟩, member⟩ := List.exists_mem_of_ne_nil _ (fun empty => stays (congrArg chars empty))
    obtain ⟨member, rfl⟩ := List.mem_filter.mp member
    obtain ⟨between, after, rest⟩ := List.append_of_mem member
    have whole : marked ss = (ms ++ (Segment.block body).text.map (·, false) ++ between) ++ (c, true) :: after := by
      rw [shape, split, marked, rest]
      simp [isDropped, Segment.isComment]
    exact none _ c after whole (by simp [Segment.text, feed])
  · intro none before c after shape dropped
    obtain ⟨front, back, rfl⟩ := List.append_of_mem dropped
    rw [List.append_assoc, List.cons_append] at shape
    have stays : staying (back ++ (c, true) :: after) ≠ [] := by simp [staying, chars]
    rcases dropped_feed cut shape with gone | ⟨front', body, back', split, feed, left⟩
    · exact stays gone
    · rw [left, none front' body back' split feed] at stays
      exact stays rfl

/-! ### Lines of failures -/

/-- The characters of a text that end at an offset or before it. -/
def charsBefore : List Char → Nat → List Char
  | [], _ => []
  | c :: cs, offset => if c.utf8Size ≤ offset then c :: charsBefore cs (offset - c.utf8Size) else []

theorem charsBefore_isPrefix (text : List Char) (offset : Nat) : charsBefore text offset <+: text := by
  induction text generalizing offset with
  | nil => exact List.prefix_rfl
  | cons c cs ih =>
    rw [charsBefore]
    split
    · exact List.cons_prefix_cons.mpr ⟨rfl, ih _⟩
    · exact List.nil_prefix

/-- **The line of an offset** counts the line feeds before it. -/
theorem linePosition_line (text : List Char) (offset : Nat) :
    (linePosition text offset).1 = feeds (charsBefore text offset) + 1 := by
  suffices go : ∀ line column, (linePosition.go text offset line column).1 = feeds (charsBefore text offset) + line from
    go 1 0
  induction text generalizing offset with
  | nil => simp [linePosition.go, charsBefore, feeds]
  | cons c cs ih =>
    intro line column
    have size := c.utf8Size_pos
    rw [linePosition.go, charsBefore]
    by_cases none : offset = 0
    · rw [if_pos none, if_neg (by omega)]
      simp [feeds]
    rw [if_neg none]
    by_cases feed : c = '\n'
    · have one : c.utf8Size = 1 := by rw [feed]; rfl
      rw [if_pos feed, if_pos (by omega), one, ih, feeds, feeds, feed, List.count_cons_self]
      omega
    · rw [if_neg feed]
      by_cases fits : c.utf8Size ≤ offset
      · rw [if_pos fits, if_pos fits, ih, feeds, feeds, List.count_cons_of_ne feed]
      · rw [if_neg fits, if_neg fits]
        simp [feeds]

/-- What stays first was first before, and ends where something stays. -/
theorem exists_before {ms : List (Char × Bool)} {first rest : List Char} (split : staying ms = first ++ rest) :
    ∃ before after, ms = before ++ after ∧ staying before = first ∧ ∀ m ∈ before.getLast?, m.2 = true := by
  induction ms generalizing first with
  | nil =>
    obtain ⟨rfl, _⟩ := List.append_eq_nil_iff.mp split.symm
    exact ⟨[], [], rfl, rfl, by simp⟩
  | cons m ms ih =>
    cases first with
    | nil => exact ⟨[], m :: ms, rfl, rfl, by simp⟩
    | cons c first =>
      have last : ∀ {before : List (Char × Bool)}, (before = [] → m.2 = true) → (∀ m ∈ before.getLast?, m.2 = true) →
          ∀ m' ∈ (m :: before).getLast?, m'.2 = true := by
        intro before alone others m' final
        cases before with
        | nil =>
          cases final
          exact alone rfl
        | cons n before => exact others m' (by rwa [List.getLast?_cons_cons] at final)
      obtain ⟨d, b⟩ := m
      cases b with
      | true =>
        have here : staying ((d, true) :: ms) = d :: staying ms := rfl
        rw [here, List.cons_append] at split
        obtain ⟨rfl, later⟩ := List.cons.inj split
        obtain ⟨before, after, rfl, rfl, ends⟩ := ih later
        exact ⟨(d, true) :: before, after, rfl, rfl, last (fun _ => rfl) ends⟩
      | false =>
        obtain ⟨before, after, rfl, stays, ends⟩ := ih split
        refine ⟨(d, false) :: before, after, rfl, stays, last (fun empty => ?_) ends⟩
        rw [empty] at stays
        cases stays

/-- **Which characters stay on their line, and which line a failure names.** All characters that stay have as many
line feeds before them as they had exactly if nothing stays behind a block comment with a line feed in it. A failure
names the line at which the last character before it stands in what is left; that is its line in the text with comments
exactly if no line feed before it was dropped. -/
theorem lines_stay_iff (content : String) :
    ∃ ss, Cut content.toList ss ∧ chars (marked ss) = content.toList ∧ staying (marked ss) = (plain content).toList ∧
      ((∀ before c after, marked ss = before ++ (c, true) :: after → feeds (staying before) = feeds (chars before)) ↔
        ∀ front body back, ss = front ++ .block body :: back → '\n' ∈ body → kept back = []) ∧
      ∀ failure : Failure, Project.read.run (plain content) = .error failure →
        ∃ (line column : Nat) (before after : List (Char × Bool)),
          Project.parse content = .error (failure.fault.message ++ s!" at line {line} column {column}") ∧
          marked ss = before ++ after ∧ staying before = charsBefore (plain content).toList failure.offset ∧
          (∀ m ∈ before.getLast?, m.2 = true) ∧ line = feeds (staying before) + 1 ∧
          (line = feeds (chars before) + 1 ↔ ('\n', false) ∉ before) := by
  obtain ⟨ss, cut⟩ := exists_cut content.toList
  have whole : chars (marked ss) = content.toList := (chars_marked ss).trans cut.text_eq
  have left : staying (marked ss) = (plain content).toList := by
    rw [staying_marked, ← cut.strip_eq, plain, String.toList_ofList]
  refine ⟨ss, cut, whole, left, ?_, fun failure failed => ?_⟩
  · rw [← not_dropped_iff cut]
    simp only [feeds_staying_iff]
  · obtain ⟨rest, split⟩ := charsBefore_isPrefix (plain content).toList failure.offset
    obtain ⟨before, after, shape, stays, ends⟩ := exists_before (left.trans split.symm)
    let place := linePosition (plain content).toList failure.offset
    have line : place.1 = feeds (staying before) + 1 := by rw [stays]; exact linePosition_line _ _
    refine ⟨place.1, place.2, before, after, ?_, shape, stays, ends, line, ?_⟩
    · unfold Project.parse
      dsimp only
      rw [failed]
      rfl
    · rw [line, Nat.add_right_cancel_iff]
      exact feeds_staying_iff before

/-- A line feed in a comment is no longer before what follows it: a brace on the second line that nothing closes is
reported on the first. -/
theorem block_moves_line :
    marked [.block ['\n'], .other '\x7b'] = "/*\n*/".toList.map (·, false) ++ [('\x7b', true)] ∧
      Cut "/*\n*/\x7b".toList [.block ['\n'], .other '\x7b'] ∧
      feeds (staying ("/*\n*/".toList.map (·, false))) = 0 ∧ feeds (chars ("/*\n*/".toList.map (·, false))) = 1 ∧
      Project.parse "/*\n*/\x7b" = .error "EOF while parsing an object at line 1 column 1" := by
  refine ⟨by decide, ?_, by decide, by decide, by decide +kernel⟩
  exact .cons (s := .block ['\n']) (by simp [Segment.Stands, List.infix_cons_iff]) (.other (by decide) (by decide) .nil)

end Detype.Json.Commented
