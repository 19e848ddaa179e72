import Detype.Compile

/-
**The code of plain scripts.**

Where no comments wait, the printer writes the signs of a construct and nothing else. That is said here of names,
members, calls and empty blocks: enough for the code of scripts of one statement, which the printer writes on a line of
its own; a block is the exception, whose line it does not end.

* `Writer.Calm` — a writer at the left margin with no comments that wait; `Writer.Adds` — such a writer with more text.
* `Print.Writes` — an action that writes a text there; `Writes.bind` puts two together.
* `Expr.plain?`, `Stmt.plain?`, `Program.plain?` — the text of plain constructs.
* `writes_expr`, `run_stmt`, `program_run` — it is what the printer writes.
* `compile_plain` — the code of a text that becomes a plain script.
-/

namespace Detype

/-! ### The writer -/

namespace Writer

/-- A writer at the left margin with no comments that wait. -/
structure Calm (w : Writer) : Prop where
  indent : w.indent = 0
  leading : ∀ k : Nat, w.leading[k]? = none
  trailing : ∀ k : Nat, w.trailing[k]? = none

/-- A calm writer with more text. It is at the start of a line if it was there and the text is empty. -/
structure Adds (w w' : Writer) (text : String) : Prop where
  calm : w'.Calm
  text_eq : w'.text = w.text ++ text
  lineStart_eq : w'.lineStart = (w.lineStart && text.isEmpty)

theorem Adds.refl {w : Writer} (calm : w.Calm) : w.Adds w "" := ⟨calm, by simp, by simp⟩

theorem Adds.trans {w w' w'' : Writer} {s t : String} (first : w.Adds w' s) (second : w'.Adds w'' t) :
    w.Adds w'' (s ++ t) := by
  refine ⟨second.calm, ?_, ?_⟩
  · rw [second.text_eq, first.text_eq, String.append_assoc]
  · have both : (s ++ t).isEmpty = (s.isEmpty && t.isEmpty) := by
      rw [Bool.eq_iff_iff]
      simp [String.isEmpty_iff]
    rw [second.lineStart_eq, first.lineStart_eq, Bool.and_assoc, both]

namespace Calm

variable {w : Writer}

theorem mapTo (calm : w.Calm) (position : Nat) : w.Adds (w.mapTo position) "" := by
  unfold Writer.mapTo
  split
  · exact .refl calm
  · exact ⟨⟨calm.indent, calm.leading, calm.trailing⟩, by simp, by simp⟩

theorem beginLine (calm : w.Calm) :
    w.beginLine.Calm ∧ w.beginLine.text = w.text ∧ w.beginLine.lineStart = false := by
  have margin : w.text ++ String.ofList (List.replicate (4 * w.indent) ' ') = w.text := by
    rw [calm.indent, Nat.mul_zero, List.replicate_zero, String.ofList_nil, String.append_empty]
  unfold Writer.beginLine
  split
  · dsimp only
    rw [margin]
    have begun : Calm { w with column := w.column + 4 * w.indent, lineStart := false, pending := none } :=
      ⟨calm.indent, calm.leading, calm.trailing⟩
    split
    · have noted := begun.mapTo ‹Nat›
      exact ⟨noted.calm, noted.text_eq.trans (String.append_empty ..), noted.lineStart_eq⟩
    · exact ⟨begun, rfl, rfl⟩
  · next inside => exact ⟨calm, rfl, Bool.eq_false_iff.mpr inside⟩

/-- Text is written as it is. -/
theorem write (calm : w.Calm) (text : String) : w.Adds (w.write text) text := by
  unfold Writer.write
  split
  · next empty =>
    rw [String.isEmpty_iff.mp empty]
    exact .refl calm
  · next some =>
    obtain ⟨begun, same, inside⟩ := calm.beginLine
    dsimp only
    rw [same, inside]
    exact ⟨⟨begun.indent, begun.leading, begun.trailing⟩, rfl, by simp [some]⟩

theorem mark (calm : w.Calm) (position : Nat) : w.Adds (w.mark position) "" := by
  unfold Writer.mark
  split
  · exact .refl calm
  · split
    · exact ⟨⟨calm.indent, calm.leading, calm.trailing⟩, by simp, by simp⟩
    · exact calm.mapTo position

/-- A line that is begun is ended. -/
theorem newline (calm : w.Calm) (begun : w.lineStart = false) :
    w.newline.Calm ∧ w.newline.text = w.text ++ "\n" := by
  unfold Writer.newline
  rw [begun]
  exact ⟨⟨calm.indent, calm.leading, calm.trailing⟩, rfl⟩

end Calm

end Writer

/-! ### Actions -/

namespace Print

/-- An action that writes a text and nothing else where no comments wait. -/
def Writes (p : Print) (text : String) : Prop := ∀ w : Writer, w.Calm → ∃ w', p.run w = ((), w') ∧ w.Adds w' text

theorem run_bind {α β : Type} {act : StateM Writer α} {next : α → StateM Writer β} {w w' : Writer} {a : α}
    (first : act.run w = (a, w')) : (act >>= next).run w = (next a).run w' := by
  show (next (act.run w).1).run (act.run w).2 = _
  rw [first]

namespace Writes

variable {p q : Print} {s t : String}

theorem bind (first : p.Writes s) (second : q.Writes t) : Writes (p >>= fun _ => q) (s ++ t) := by
  intro w calm
  obtain ⟨w', run, adds⟩ := first w calm
  obtain ⟨w'', run', adds'⟩ := second w' adds.calm
  exact ⟨w'', (run_bind run).trans run', adds.trans adds'⟩

/-- What writes nothing can stand before an action, and after it. -/
theorem after (silent : p.Writes "") (writes : q.Writes t) : Writes (p >>= fun _ => q) t :=
  String.empty_append (s := t) ▸ silent.bind writes

theorem before (writes : p.Writes s) (silent : q.Writes "") : Writes (p >>= fun _ => q) s :=
  String.append_empty (s := s) ▸ writes.bind silent

theorem of_adds {f : Writer → Writer} (adds : ∀ w : Writer, w.Calm → w.Adds (f w) t) : Writes (modify f) t :=
  fun w calm => ⟨f w, rfl, adds w calm⟩

theorem done : Writes (pure ()) "" := fun w calm => ⟨w, rfl, .refl calm⟩

end Writes

theorem writes_text (t : String) : Writes (text t) t := .of_adds fun _ calm => calm.write t

theorem writes_mark (position : Nat) : Writes (mark position) "" := .of_adds fun _ calm => calm.mark position

theorem writes_markedText (s : Span) {t : String} (some : t.isEmpty = false) : Writes (markedText s t) t := by
  refine .of_adds fun w calm => ?_
  obtain ⟨begun, same, inside⟩ := calm.beginLine
  have first := begun.mapTo s.lo
  have second := first.calm.write t
  have third := second.calm.mapTo s.hi
  refine ⟨third.calm, ?_, ?_⟩
  · rw [third.text_eq, second.text_eq, first.text_eq, same, String.append_empty, String.append_empty]
  · rw [third.lineStart_eq, second.lineStart_eq, some, Bool.and_false, Bool.and_false, Bool.false_and]

theorem writes_markClose (s : Span) : Writes (markClose s) "" := by
  unfold markClose
  split
  · exact .done
  · exact writes_mark _

variable {w : Writer}

theorem run_get (w : Writer) : (get : StateM Writer Writer).run w = (w, w) := rfl

theorem leadAt_run (calm : w.Calm) (position : Nat) : (leadAt position).run w = ((), w) := by
  unfold leadAt
  rw [run_bind (run_get w), calm.leading]
  rfl

theorem lead_run (calm : w.Calm) {s : Span} (plain : s.lo ≠ Span.pureMark) : (lead s).run w = ((), w) := by
  unfold lead
  split
  · rfl
  · rw [if_neg (by simpa using plain)]
    exact leadAt_run calm s.lo

theorem trail_run (calm : w.Calm) (s : Span) : (trail s).run w = ((), w) := by
  unfold trail
  split
  · rfl
  · unfold trailAt
    rw [run_bind (run_get w), calm.trailing]
    rfl

theorem writes_leadAt (position : Nat) : Writes (leadAt position) "" :=
  fun w calm => ⟨w, leadAt_run calm position, .refl calm⟩

theorem writes_lead {s : Span} (plain : s.lo ≠ Span.pureMark) : Writes (lead s) "" :=
  fun w calm => ⟨w, lead_run calm plain, .refl calm⟩

theorem writes_trail (s : Span) : Writes (trail s) "" := fun w calm => ⟨w, trail_run calm s, .refl calm⟩

theorem waitsAtClose_run (calm : w.Calm) (s : Span) : (waitsAtClose s).run w = (false, w) := by
  have absent : w.leading.contains (s.hi - 1) = false := by
    rw [← Std.HashMap.isSome_getElem?_eq_contains, calm.leading]
    rfl
  show (!s.isSynthesized && w.leading.contains (s.hi - 1), w) = _
  rw [absent, Bool.and_false]

/-- Where no comments wait, none is found before a closing bracket. -/
theorem Writes.ofNoneWaiting {s : Span} {act : Bool → Print} {t : String} (writes : (act false).Writes t) :
    Writes (waitsAtClose s >>= act) t := by
  intro w calm
  obtain ⟨w', run, adds⟩ := writes w calm
  exact ⟨w', (run_bind (waitsAtClose_run calm s)).trans run, adds⟩

end Print

/-! ### The text of plain constructs -/

/-- A text at a place that is not marked as free of effects. -/
def Span.saying (s : Span) (text : String) : Option String := if s.lo = Span.pureMark then none else some text

theorem Span.saying_eq_some {s : Span} {text t : String} (said : s.saying text = some t) :
    s.lo ≠ Span.pureMark ∧ text = t := by
  unfold saying at said
  split at said
  · cases said
  · next plain => exact ⟨plain, Option.some.inj said⟩

/-- The text of an expression of names, texts, members and calls with one argument. -/
def Expr.plain? : Nat → Expr → Option String
  | 0, _ => none
  | _ + 1, .importRef s .evaluation => s.saying "import"
  | _ + 1, .ident id => id.span.saying id.name
  | _ + 1, .keyName id => id.span.saying id.name
  | _ + 1, .str s => s.span.saying s.literal
  | depth + 1, .member s obj key => do s.saying ((← obj.plain? depth) ++ "." ++ (← key.plain? depth))
  | depth + 1, .call s callee [arg] _ => do
    s.saying ((← callee.plain? depth) ++ "(" ++ (← arg.plain? depth) ++ ")")
  | _ + 1, _ => none

/-- The text of a statement that is a plain expression or an empty block. -/
def Stmt.plain? : Nat → Stmt → Option String
  | depth + 1, .expr s e => do s.saying ((← e.plain? depth) ++ ";" ++ "\n")
  | _ + 1, .block ⟨s, []⟩ => if s.isSynthesized then none else s.saying "\x7b\x7d"
  | _, _ => none

/-- The text of a script of one plain statement. -/
def Program.plain? (depth : Nat) (prog : Program) : Option String :=
  match prog.isModule, prog.shebang, prog.body with
  | false, none, [s] => (s.plain? depth).bind prog.span.saying
  | _, _, _ => none

/-! ### What the printer writes -/

namespace Printer

open Print

theorem writes_node {s : Span} {p : Print} {text : String} (plain : s.lo ≠ Span.pureMark) (writes : p.Writes text) :
    (node s p).Writes text := (writes_lead plain).after ((writes_mark s.lo).after writes)

theorem writes_ident {id : Ident} (plain : id.span.lo ≠ Span.pureMark) : (ident id).Writes id.name :=
  writes_node plain (writes_text id.name)

/-- An expression is written like its signs if no comments wait behind it. -/
theorem writes_exprRule {p : Printer} {e : Expr} {text : String} (writes : (exprBody p e).Writes text) :
    (exprRule p e).Writes text := by
  refine writes.before ?_
  split
  · exact writes_trail e.span
  · exact .done

theorem writes_memberObject {p : Printer} {depth : Nat} {obj key : Expr} {text : String}
    (plain : obj.plain? depth = some text) (writes : (p.expr obj).Writes text) :
    (memberObject p obj key).Writes text := by
  refine writes.before ?_
  split
  · next n => cases depth <;> cases plain
  · exact .done

theorem writes_leadBefore (s : Span) (distance : Nat) : (leadBefore s distance).Writes "" := by
  unfold leadBefore
  split
  · exact .done
  · exact writes_leadAt _

theorem writes_memberKey {p : Printer} {depth : Nat} {key : Expr} {text : String}
    (plain : key.plain? depth = some text) (writes : (p.expr key).Writes text) :
    (memberKey p key).Writes ("." ++ text) := by
  unfold memberKey
  split
  · cases depth <;> cases plain
  · exact (writes_leadBefore _ 1).after ((writes_text ".").bind writes)

theorem writes_arguments {p : Printer} (s : Span) {arg : Expr} {text : String} (writes : (p.expr arg).Writes text) :
    (arguments p s [arg]).Writes ("(" ++ text ++ ")") := by
  have items : (Print.items {} s [p.expr arg]).Writes text :=
    show Writes (pure () >>= fun _ => (p.expr arg >>= fun _ => pure ()) >>= fun _ => pure ()) text from
      Writes.done.after ((writes.before .done).before .done)
  rw [String.append_assoc]
  exact (writes_text "(").bind (items.bind (writes_text ")"))

/-- **Plain expressions are written as their texts.** -/
theorem writes_expr {depth : Nat} {e : Expr} {text : String} (plain : e.plain? depth = some text) :
    ((ofDepth depth).expr e).Writes text := by
  fun_induction Expr.plain? depth e generalizing text with
  | case1 => cases plain
  | case2 depth s =>
    obtain ⟨own, rfl⟩ := Span.saying_eq_some plain
    exact writes_exprRule ((writes_lead own).after ((writes_markedText s rfl).before .done))
  | case3 depth id =>
    obtain ⟨own, rfl⟩ := Span.saying_eq_some plain
    exact writes_exprRule (writes_ident own)
  | case4 depth id =>
    obtain ⟨own, rfl⟩ := Span.saying_eq_some plain
    exact writes_exprRule (p := ofDepth depth) (e := .keyName id) (writes_ident own)
  | case5 depth s =>
    obtain ⟨own, rfl⟩ := Span.saying_eq_some plain
    exact writes_exprRule (writes_node own (writes_text s.literal))
  | case6 depth s obj key ofObj ofKey =>
    obtain ⟨front, objPlain, plain⟩ := Option.bind_eq_some_iff.mp plain
    obtain ⟨name, keyPlain, plain⟩ := Option.bind_eq_some_iff.mp plain
    obtain ⟨own, rfl⟩ := Span.saying_eq_some plain
    refine writes_exprRule (writes_node own ?_)
    rw [String.append_assoc]
    dsimp only
    split
    · cases depth <;> cases keyPlain
    · refine (writes_memberObject objPlain (ofObj objPlain)).bind
        ((writes_memberKey keyPlain (ofKey keyPlain)).before ?_)
      split
      · exact .done
      · exact writes_mark s.hi
  | case7 depth s callee arg types ofCallee ofArg =>
    obtain ⟨front, calleePlain, plain⟩ := Option.bind_eq_some_iff.mp plain
    obtain ⟨inner, argPlain, plain⟩ := Option.bind_eq_some_iff.mp plain
    obtain ⟨own, rfl⟩ := Span.saying_eq_some plain
    rw [String.append_assoc, String.append_assoc]
    have inParentheses := writes_arguments s (ofArg argPlain)
    rw [String.append_assoc] at inParentheses
    exact writes_exprRule (writes_node own ((ofCallee calleePlain).bind inParentheses))
  | case8 => cases plain

/-- **An empty block** is written as its braces. -/
theorem writes_block (p : Printer) {s : Span} (own : s.isSynthesized = false) (plain : s.lo ≠ Span.pureMark) :
    (block p ⟨s, []⟩ true).Writes "\x7b\x7d" := by
  have closed : Writes (leadAt (s.hi - 1) >>= fun _ => markClose s >>= fun _ => text "\x7d") "\x7d" :=
    (writes_leadAt _).after ((writes_markClose s).after (writes_text "\x7d"))
  unfold block
  simp only [if_true, List.isEmpty_nil, Bool.not_true, Bool.false_or, own, Bool.false_eq_true, if_false]
  refine (writes_lead plain).after ((writes_mark s.lo).after ?_)
  show Writes _ ("\x7b" ++ "\x7d")
  exact (writes_text "\x7b").bind (.ofNoneWaiting closed)

/-- **Plain statements are written as their texts.** -/
theorem run_stmt {depth : Nat} {s : Stmt} {text : String} (plain : s.plain? depth = some text) {w : Writer}
    (calm : w.Calm) : ∃ w', ((ofDepth depth).stmt s).run w = ((), w') ∧ w'.Calm ∧ w'.text = w.text ++ text := by
  unfold Stmt.plain? at plain
  split at plain
  · next depth s e =>
    obtain ⟨front, exprPlain, plain⟩ := Option.bind_eq_some_iff.mp plain
    obtain ⟨own, rfl⟩ := Span.saying_eq_some plain
    have line : Writes (stmtBody (ofDepth depth) (.expr s e) >>= fun _ => trail s) (front ++ ";") :=
      ((writes_lead own).after ((writes_expr exprPlain).bind (writes_text ";"))).before (writes_trail s)
    obtain ⟨w', run, adds⟩ := line w calm
    obtain ⟨ended, text_eq⟩ := adds.calm.newline (by rw [adds.lineStart_eq]; simp)
    refine ⟨w'.newline, ?_, ended, ?_⟩
    · have whole : ((ofDepth (depth + 1)).stmt (.expr s e)).run w =
          ((stmtBody (ofDepth depth) (.expr s e) >>= fun _ => trail s) >>= fun _ => newline).run w := rfl
      exact whole.trans ((run_bind run).trans rfl)
    · rw [text_eq, adds.text_eq, String.append_assoc]
  · next depth s =>
    split at plain
    · cases plain
    · next own =>
      obtain ⟨start, rfl⟩ := Span.saying_eq_some plain
      obtain ⟨w', run, adds⟩ := writes_block (ofDepth depth) (Bool.eq_false_iff.mpr own) start w calm
      exact ⟨w', (run_bind run).trans rfl, adds.calm, adds.text_eq⟩
  · cases plain

/-- **A plain script is written as its text.** -/
theorem program_run {depth : Nat} {prog : Program} {text : String} (plain : prog.plain? depth = some text) {w : Writer}
    (calm : w.Calm) : ((program (ofDepth depth) prog).run w).2.text = w.text ++ text := by
  unfold Program.plain? at plain
  split at plain
  · next s script bare body =>
    obtain ⟨line, statement, plain⟩ := Option.bind_eq_some_iff.mp plain
    obtain ⟨start, rfl⟩ := Span.saying_eq_some plain
    obtain ⟨w', run, calm', text_eq⟩ := run_stmt statement calm
    have items : ([s].forM (ofDepth depth).stmt).run w = ((), w') := (run_bind run).trans rfl
    have rest : ([s].forM (ofDepth depth).stmt >>= fun _ => trail prog.span).run w = ((), w') :=
      (run_bind items).trans (trail_run calm' prog.span)
    rw [← text_eq]
    unfold program
    rw [body, script, bare]
    simp only [Bool.false_eq_true, if_false]
    split
    · rw [rest]
    · rw [run_bind (lead_run calm start), rest]
  · cases plain

end Printer

/-! ### Texts -/

theorem Comments.Table.move_empty (source target : Nat) : Table.move {} source target = {} := by
  unfold Table.move
  rw [Std.HashMap.get?_eq_getElem?, Std.HashMap.getElem?_empty]

/-- Parentheses do not move comments where there are none. -/
theorem parenthesize_bare (prog : Program) (depth : Nat) :
    prog.parenthesize {} depth = ((prog.parenthesize {} depth).1, {}) := by
  have still : ∀ dropped : List (Span × Span), dropped.foldl (fun (c : Comments) d =>
      (c.moveLeading d.2.lo d.1.lo).moveTrailing d.2.hi d.1.hi) {} = {} := by
    intro dropped
    induction dropped with
    | nil => rfl
    | cons d rest ih =>
      have unmoved : ((({} : Comments).moveLeading d.2.lo d.1.lo).moveTrailing d.2.hi d.1.hi) = {} := by
        unfold Comments.moveLeading Comments.moveTrailing
        dsimp only
        rw [Comments.Table.move_empty, Comments.Table.move_empty]
      rw [List.foldl_cons]
      exact (congrArg (rest.foldl _) unmoved).trans ih
  exact Prod.ext rfl (still _)

/-- The code of a program without comments that is a plain script with the parentheses that it needs. -/
def Program.code? (prog : Program) (depth : Nat) : Option String := (prog.parenthesize {} depth).1.plain? depth

/-- **The code of a text that becomes a plain script**, if there are no comments, is the text of the script. -/
theorem compile_plain {text code : String} {options : Options} {parsed : Parsed}
    (read : (Source.ofString (withoutMark text)).parse options.jsx = .ok parsed) (leading : parsed.leading = [])
    (trailing : parsed.trailing = [])
    (plain : (Compilation.transform parsed.program options
      (Parser.depthFor (Source.ofString (withoutMark text)))).code?
        (Parser.depthFor (Source.ofString (withoutMark text))) = some code) :
    ∃ output, compile text options = .ok output ∧ output.code = code := by
  have calm : Writer.Calm
      { recording := options.sourceMap, leading := ({} : Comments).leading, trailing := ({} : Comments).trailing,
        commas := commaPositions (Source.ofString (withoutMark text)) } :=
    ⟨rfl, fun k => Std.HashMap.getElem?_empty, fun k => Std.HashMap.getElem?_empty⟩
  unfold compile finish
  rw [read]
  refine ⟨_, rfl, ?_⟩
  show (write _ (.ofLists parsed.leading parsed.trailing) _ _ _).1 = _
  have nothing : Comments.ofLists [] [] = {} := rfl
  rw [leading, trailing, nothing]
  unfold write
  rw [parenthesize_bare]
  exact (Printer.program_run plain calm).trans String.empty_append

end Detype
