import Detype.Project
import Detype.Proofs.Json.Data

/-
**Project files with comments.**

Comments and trailing commas make no difference to what a project file says.

* `Rendering.aligned` — without them, texts of the same value are texts of the same tokens.
* `Project.read_agree` — reading a project file goes from token to token.
* `Project.parse_rendering` — a project file is read as plain JSON of the same value would be, places in messages
  aside.
-/

namespace Detype

open Json Json.Reader

/-! ### Texts and their tokens -/

namespace Json

/-- Values of the same tokens, however their strings are written. -/
def Value.Same (v v' : Value) : Prop := v.tokens.map Token.meaning = v'.tokens.map Token.meaning

theorem Rendering.aligned {v v' : Value} (same : v.Same v') (r : Rendering v) (r' : Rendering v') :
    Aligned (v.tokens.length + 1) r.bare r'.bare :=
  ⟨v.tokens, v'.tokens, r.spaced_bare, r'.spaced_bare, same, Nat.lt_succ_self _⟩

end Json

/-! ### Reading a project file -/

namespace ProjectOptions

variable {n : Nat}

theorem readField_agree (n : Nat) (progress : Progress) (name : String) :
    Agree (Aligned n) (readField progress name) (readField progress name) fun _ => Aligned n := by
  obtain ⟨o, seen⟩ := progress
  have once : ∀ name, Agree (Aligned n)
      (do
        if seen.contains name then failInObject (.shape (.duplicateField name))
        colon)
      (do
        if seen.contains name then failInObject (.shape (.duplicateField name))
        colon) fun _ => Aligned n := by
    intro name
    split
    · exact .bind (failInObject_agree _) fun _ => colon_agree
    · exact colon_agree
  have done : ∀ {α : Type} (a : α), Agree (Aligned n) (pure a) (pure a) fun _ => Aligned n :=
    fun a => .pure a fun _ _ left => left
  unfold readField
  dsimp only
  split
  · exact .bind (once _) fun _ => .bind (optional_agree string_agree) fun _ => .bind (done _) fun _ => done _
  · exact .bind (once _) fun _ => .bind (optional_agree boolean_agree) fun _ => .bind (done _) fun _ => done _
  · exact .bind (once _) fun _ => .bind (optional_agree string_agree) fun _ => .bind (done _) fun _ => done _
  · exact .bind (once _) fun _ => .bind (optional_agree boolean_agree) fun _ => .bind (done _) fun _ => done _
  · exact .bind (once _) fun _ => .bind (optional_agree boolean_agree) fun _ => .bind (done _) fun _ => done _
  · exact .bind colon_agree fun _ => .bind ignored_agree fun _ => .bind (done _) fun _ => done _

theorem readElement_agree {α : Type} (index : Nat) {value : Reader α}
    (agree : Agree (Aligned n) value value fun _ => Aligned n) :
    Agree (Aligned n) (readElement index value) (readElement index value) fun _ => Aligned n := by
  refine .bind (nextElement_agree _) fun more => ?_
  cases more with
  | true => exact optional_agree agree
  | false => exact failInList_agree _

theorem read_agree : Agree (Aligned n) read read fun _ => Aligned n := by
  refine .bind valueStart_agree fun c => ?_
  split
  · refine .bind (fields_agree readField_agree _) fun progress => ?_
    exact .pure progress.1 fun _ _ left => left
  · refine .bind (skip_mark_agree (by decide)).forget fun _ => ?_
    refine .bind (readElement_agree 0 string_agree) fun _ => .bind (readElement_agree 1 boolean_agree) fun _ => ?_
    refine .bind (readElement_agree 2 string_agree) fun _ => .bind (readElement_agree 3 boolean_agree) fun _ => ?_
    refine .bind (readElement_agree 4 boolean_agree) fun _ => .bind endList_agree fun _ => ?_
    exact .pure _ fun _ _ left => left
  · exact unexpected_agree _

end ProjectOptions

namespace Project

variable {n : Nat}

theorem readField_agree (n : Nat) (progress : Project × Bool) (name : String) :
    Agree (Aligned n) (readField progress name) (readField progress name) fun _ => Aligned n := by
  obtain ⟨p, seen⟩ := progress
  unfold readField
  split
  · split
    · exact .bind (failInObject_agree _) fun _ => .bind colon_agree fun _ => .bind ProjectOptions.read_agree fun _ =>
        .pure _ fun _ _ left => left
    · exact .bind colon_agree fun _ => .bind ProjectOptions.read_agree fun _ => .pure _ fun _ _ left => left
  · exact .bind colon_agree fun _ => .bind ignored_agree fun _ => .pure _ fun _ _ left => left

/-- Reading a project file goes from token to token. -/
theorem read_agree : Agree (Aligned n) read read fun _ => Aligned n := by
  refine .bind valueStart_agree fun c => ?_
  split
  · refine .bind (fields_agree readField_agree _) fun progress => ?_
    exact .pure progress.1 fun _ _ left => left
  · refine .bind (skip_mark_agree (by decide)).forget fun _ => .bind (nextElement_agree true) fun more => ?_
    have member : ∀ o : ProjectOptions, Agree (Aligned n)
        (do endList; return { compilerOptions := o }) (do endList; return { compilerOptions := o })
        fun (_ : Project) => Aligned n :=
      fun o => .bind endList_agree fun _ => .pure _ fun _ _ left => left
    cases more with
    | true => exact .bind ProjectOptions.read_agree member
    | false => exact .bind (.pure _ fun _ _ left => left) member
  · exact unexpected_agree _

/-- What is read of a project file is what a reader gave, apart from the place in a message. -/
def SameButPlace : Except String Project → Except Failure Project → Prop
  | .ok p, .ok q => p = q
  | .error message, .error failure =>
    ∃ line column : Nat, message = failure.fault.message ++ s!" at line {line} column {column}"
  | _, _ => False

theorem sameButPlace_of_aligned {cs cs' : List Char} (aligned : Aligned n cs cs') :
    SameButPlace ((read.run (String.ofList cs)).mapError (·.message (String.ofList cs)))
      (read.run (String.ofList cs')) := by
  have same := run_agree read_agree aligned
  cases given : read.run (String.ofList cs) with
  | ok p =>
    cases given' : read.run (String.ofList cs') with
    | ok q =>
      rw [given, given'] at same
      exact Except.ok.inj same
    | error f' =>
      rw [given, given'] at same
      cases same
  | error f =>
    cases given' : read.run (String.ofList cs') with
    | ok q =>
      rw [given, given'] at same
      cases same
    | error f' =>
      rw [given, given'] at same
      have faults : f.fault = f'.fault := Except.error.inj same
      let place := linePosition (String.ofList cs).toList f.offset
      refine ⟨place.1, place.2, ?_⟩
      rw [← faults]
      rfl

/-- **A project file is read as plain JSON of the same value**, places in messages aside: what is removed before it
is read are its comments and its trailing commas, and nothing of a text that has none. -/
theorem parse_rendering (v : Value) (r : Rendering v) :
    Commented.plain (String.ofList r.text) = String.ofList r.bare ∧
      (r.Plain → Commented.plain (String.ofList r.text) = String.ofList r.text) ∧
      ∀ (v' : Value) (r' : Rendering v'), v.Same v' → r'.Plain →
        SameButPlace (parse (String.ofList r.text)) (read.run (String.ofList r'.text)) := by
  have stripped : Commented.plain (String.ofList r.text) = String.ofList r.bare := by
    rw [Commented.plain, String.toList_ofList, r.strip_text]
  refine ⟨stripped, fun plain => ?_, fun v' r' same plain => ?_⟩
  · rw [stripped, Rendering.bare_of_plain plain]
  · have aligned := Rendering.aligned same r r'
    rw [Rendering.bare_of_plain plain] at aligned
    unfold parse
    dsimp only
    rw [stripped]
    exact sameButPlace_of_aligned aligned

/-- An object with an array in it. -/
def flags : Value := .object [([.char 'a' (by decide)], .array [.word .true])]

theorem flags_tokens : flags.tokens = [.opening .object, .string [.char 'a' (by decide)], .colon, .opening .list,
    .word .true, .closing .list, .closing .object] := by
  simp [flags, Value.tokens, entryTokens, moreEntries, itemTokens, moreItems]

/-- The same with comments and trailing commas, which also stand in comments. -/
def notedFlags : Rendering flags where
  pieces := [.token (.opening .object), .line [' ', ',', ']', '"'] (by decide), .token (.string [.char 'a' (by decide)]),
    .token .colon, .token (.opening .list), .token (.word .true), .trailing, .block ['/', '/', ','] (by decide),
    .token (.closing .list), .trailing, .blank ' ' rfl, .token (.closing .object)]
  lastLine := some ⟨['}'], by decide⟩
  tokens_eq := flags_tokens.symm
  placed := by simp [Piece.Placed, Piece.closesNext, Token.Ends]

theorem notedFlags_read :
    String.ofList notedFlags.text = "\x7b// ,]\"\n\"a\":[true,/*//,*/], \x7d//\x7d" ∧
      Commented.plain (String.ofList notedFlags.text) = "\x7b\n\"a\":[true] \x7d" ∧
      SameButPlace (parse (String.ofList notedFlags.text)) (read.run "\x7b\"a\":[true]\x7d") := by
  have compact : String.ofList (Rendering.compact flags).text = "\x7b\"a\":[true]\x7d" := by
    rw [Rendering.compact_text, flags_tokens]
    decide +kernel
  obtain ⟨stripped, _, same⟩ := parse_rendering flags notedFlags
  refine ⟨by decide +kernel, stripped.trans (by decide +kernel), ?_⟩
  rw [← compact]
  exact same flags (.compact flags) rfl (Rendering.compact_plain flags)

end Project

end Detype
