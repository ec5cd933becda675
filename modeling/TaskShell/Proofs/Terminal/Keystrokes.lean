import TaskShell.Proofs.Terminal.Echo

/-!
# Typing is submitting

Behind its display a terminal does not know how its lines came in: typed key by key, in keystrokes
that arrive together or one by one, or handed over complete. What the display shows of them is all
that differs. Nor does it know of a character that was erased as soon as it was typed, or of one that
cannot be shown.

## Main definitions

* `Terminal.undrawn` — a terminal without what it has drawn.
* `Terminal.controlKeys` — the keys that do something else than to stand for themselves.
* `Terminal.keystrokes` — the keystrokes that type some lines.
* `Terminal.submitAll` — a terminal after some complete lines.

## Main results

* `Terminal.undrawn_feed` — behind the display, what keystrokes do does not depend on it.
* `Terminal.undrawn_feed_line` — a line is typed into an empty buffer and submitted.
* `Terminal.typing_is_submitting` — lines that are typed do what they do when handed over, and
  corrected slips do nothing.
-/

set_option autoImplicit false

namespace TaskShell

namespace Terminal

variable {t t' : Terminal} {c : Char} {front back keys : List Char}

/-- A terminal without what it has drawn of its own accord: its world, pending question, aliases,
buffer, and whether it is processing. -/
def undrawn (t : Terminal) : Terminal :=
  { t with echo := [] }

/-- The keys that do something else than to stand for themselves: submit, backspace, interrupt and
tab. -/
def controlKeys : List Char :=
  ['\r', '\x7f', '\x03', '\t']

/-- The keystrokes that type some lines and submit each. -/
def keystrokes (lines : List String) : List Char :=
  lines.flatMap fun line => line.toList ++ ['\r']

/-- A terminal after some complete lines. -/
def submitAll (t : Terminal) (lines : List String) : Terminal :=
  lines.foldl (fun t line => (t.submit line).1) t

/-! ## Behind the display -/

/-- An action that has run leaves what was drawn alone. -/
lemma undrawn_settle (t : Terminal) (outcome : Except Failure (Progress Activity) × World) :
    (t.settle outcome).undrawn = t.undrawn.settle outcome := rfl

/-- An answer does the same whatever has been drawn. -/
lemma undrawn_answer (t : Terminal) (line : String) :
    (t.answer line).1.undrawn = (t.undrawn.answer line).1 := by
  unfold answer
  rw [show t.undrawn.prompt = t.prompt from rfl]
  split
  · rfl
  · rfl
  · exact undrawn_settle _ _

/-- A command does the same whatever has been drawn. -/
lemma undrawn_command (t : Terminal) (line : String) :
    (t.command line).undrawn = t.undrawn.command line := by
  unfold command
  rw [show t.undrawn.prompt = t.prompt from rfl]
  split
  · exact undrawn_answer t line
  split
  · rfl
  · exact undrawn_settle t _

/-- A complete line does the same whatever has been drawn. -/
lemma undrawn_submit (t : Terminal) (line : String) :
    (t.submit line).1.undrawn = (t.undrawn.submit line).1 := by
  unfold submit
  rw [show t.undrawn.prompt = t.prompt from rfl, show t.undrawn.processing = t.processing from rfl]
  split
  · exact undrawn_answer t line
  split
  · rfl
  · rw [← undrawn_command]
    rfl

/-- A tab completes the buffer alike whatever has been drawn. -/
lemma undrawn_complete (t : Terminal) : t.complete.undrawn = t.undrawn.complete.undrawn := by
  unfold complete
  rw [show t.undrawn.prompt = t.prompt from rfl, show t.undrawn.buffer = t.buffer from rfl]
  split
  · rfl
  split <;> rfl

/-- Behind the display, what a keystroke does not depend on what has been drawn. -/
theorem undrawn_key (t : Terminal) (c : Char) : (t.key c).undrawn = (t.undrawn.key c).undrawn := by
  unfold key
  rw [show t.undrawn.buffer = t.buffer from rfl]
  split
  · rw [undrawn_submit, undrawn_submit]
    rfl
  split
  · split <;> rfl
  split
  · rfl
  split
  · exact t.undrawn_complete
  split <;> rfl

/-- Behind the display, keystrokes do the same to terminals that differ in what they have drawn. -/
theorem undrawn_feed (h : t.undrawn = t'.undrawn) (keys : List Char) :
    (t.feed keys).undrawn = (t'.feed keys).undrawn := by
  induction keys generalizing t t' with
  | nil => exact h
  | cons c keys ih =>
    refine ih ?_
    rw [undrawn_key t, h, ← undrawn_key]

/-- Keystrokes may come in two parts. -/
lemma feed_append (t : Terminal) (front back : List Char) :
    t.feed (front ++ back) = (t.feed front).feed back :=
  List.foldl_append

/-- What is in the middle of some keystrokes does not matter if it does nothing by itself. -/
lemma undrawn_feed_around (hmiddle : ∀ t : Terminal, (t.feed keys).undrawn = t.undrawn)
    (t : Terminal) (front back : List Char) :
    (t.feed (front ++ keys ++ back)).undrawn = (t.feed (front ++ back)).undrawn := by
  rw [feed_append, feed_append, feed_append t front back]
  exact undrawn_feed (hmiddle _) back

/-! ## Keys -/

/-- A key that can be shown stands for itself. -/
lemma notMem_controlKeys (hc : Text.isPrintable c = true) : c ∉ controlKeys := by
  have hall : ∀ d ∈ controlKeys, Text.isPrintable d = false := by decide +kernel
  intro hmem
  exact nomatch (hall c hmem).symm.trans hc

/-- A key that is no control key is added to the buffer, if it can be shown. -/
lemma key_of_notMem (hc : c ∉ controlKeys) :
    t.key c = if Text.isPrintable c then { t with buffer := t.buffer ++ [c] }.draw [c] else t := by
  simp only [controlKeys, List.mem_cons, List.not_mem_nil, or_false, not_or] at hc
  obtain ⟨hreturn, herase, hinterrupt, htab⟩ := hc
  unfold key
  rw [if_neg hreturn, if_neg herase, if_neg hinterrupt, if_neg htab]

/-- A character that can be shown goes to the end of the buffer. -/
lemma undrawn_key_of_isPrintable (hc : Text.isPrintable c = true) :
    (t.key c).undrawn = { t.undrawn with buffer := t.buffer ++ [c] } := by
  rw [key_of_notMem (notMem_controlKeys hc), if_pos hc]
  rfl

/-- A backspace takes the last character from the buffer. -/
lemma undrawn_key_backspace (t : Terminal) :
    (t.key '\x7f').undrawn = { t.undrawn with buffer := t.buffer.dropLast } := by
  unfold key
  rw [if_neg (by decide), if_pos rfl]
  split
  · next hempty =>
    rw [List.isEmpty_iff.1 hempty, List.dropLast_nil, ← List.isEmpty_iff.1 hempty]
    rfl
  · rfl

/-- A character that is erased as soon as it is typed does nothing behind the display. -/
lemma undrawn_feed_erased (hc : Text.isPrintable c = true) (t : Terminal) :
    (t.feed [c, '\x7f']).undrawn = t.undrawn := by
  have hbuffer : (t.key c).buffer = t.buffer ++ [c] :=
    congrArg buffer (undrawn_key_of_isPrintable hc)
  change ((t.key c).key '\x7f').undrawn = t.undrawn
  rw [undrawn_key_backspace, undrawn_key_of_isPrintable hc, hbuffer, List.dropLast_concat]
  rfl

/-- A character that cannot be shown does nothing at all, unless its key is a control key. -/
lemma feed_ignored (hc : Text.isPrintable c = false) (hcontrol : c ∉ controlKeys) (t : Terminal) :
    t.feed [c] = t := by
  change t.key c = t
  rw [key_of_notMem hcontrol, hc, if_neg Bool.false_ne_true]

/-! ## Lines -/

/-- A text that can be shown goes to the end of the buffer. -/
lemma undrawn_feed_of_isPrintable (hkeys : ∀ c ∈ keys, Text.isPrintable c = true) :
    (t.feed keys).undrawn = { t.undrawn with buffer := t.buffer ++ keys } := by
  induction keys generalizing t with
  | nil =>
    rw [List.append_nil]
    rfl
  | cons c keys ih =>
    have hc := undrawn_key_of_isPrintable (t := t) (hkeys c List.mem_cons_self)
    have hbuffer : (t.key c).buffer = t.buffer ++ [c] := congrArg buffer hc
    change ((t.key c).feed keys).undrawn = _
    rw [ih fun d hd => hkeys d (List.mem_cons_of_mem _ hd), hc, hbuffer, List.append_assoc]
    rfl

/-- The submit key hands the buffer over as a line, and leaves an empty one. -/
lemma undrawn_key_return (t : Terminal) :
    (t.key '\r').undrawn =
      ({ t.undrawn with buffer := [] }.submit (String.ofList t.buffer)).1 := by
  unfold key
  rw [if_pos rfl, undrawn_submit]
  rfl

/-- **A line is typed.** Behind the display, a line that is typed into an empty buffer and submitted
does what it does when it is handed over complete.

**Proof sketch.** Its characters come to stand in the buffer, which the submit key hands over. -/
theorem undrawn_feed_line (hbuffer : t.buffer = []) {line : String}
    (hline : ∀ c ∈ line.toList, Text.isPrintable c = true) :
    (t.feed (line.toList ++ ['\r'])).undrawn = (t.submit line).1.undrawn := by
  have htyped := undrawn_feed_of_isPrintable (t := t) hline
  rw [hbuffer, List.nil_append] at htyped
  have hline' : (t.feed line.toList).buffer = line.toList := congrArg buffer htyped
  rw [feed_append]
  change ((t.feed line.toList).key '\r').undrawn = _
  have hempty : ({ t.undrawn with buffer := [] } : Terminal) = t.undrawn := by
    rw [← hbuffer]
    rfl
  rw [undrawn_key_return, htyped, hline', String.ofList_toList, hempty, undrawn_submit]

/-- Complete lines leave the buffer alone. -/
lemma submitAll_buffer (t : Terminal) (lines : List String) :
    (t.submitAll lines).buffer = t.buffer := by
  induction lines generalizing t with
  | nil => rfl
  | cons line lines ih => exact (ih _).trans (t.submit_typed line).1

/-- Lines are typed one after the other. -/
theorem undrawn_feed_keystrokes (hbuffer : t.buffer = []) {lines : List String}
    (hlines : ∀ line ∈ lines, ∀ c ∈ line.toList, Text.isPrintable c = true) :
    (t.feed (keystrokes lines)).undrawn = (t.submitAll lines).undrawn := by
  induction lines generalizing t with
  | nil => rfl
  | cons line lines ih =>
    have hfirst := undrawn_feed_line hbuffer (hlines line List.mem_cons_self)
    have hempty : (t.submit line).1.buffer = [] := (t.submit_typed line).1.trans hbuffer
    rw [keystrokes, List.flatMap_cons, ← keystrokes, feed_append, undrawn_feed hfirst,
      ih hempty fun other hother => hlines other (List.mem_cons_of_mem _ hother)]
    rfl

/-- **Typing is submitting.** Lines of characters that can be shown, typed into the empty buffer of
whatever terminal and each submitted, in keystrokes that come all together or cut anywhere into
calls, leave behind the display what the complete lines leave when they are handed over one after
the other: the same world with its records, session and lines written, the same pending question,
aliases and buffer, which is empty. And behind the display of whatever terminal, with whatever in its
buffer, keystrokes do the same when somewhere among them a character that can be shown is typed and
erased at once, and when one comes that cannot be shown and is none of the four control keys.

**Proof sketch.** What a terminal draws it never reads, so a keystroke does the same to terminals that
differ in it. Keystrokes that do nothing behind the display can then be left out anywhere. For the
lines, by induction: each is gathered in the buffer and handed over, which leaves the buffer empty
for the next, whatever the line was taken for. -/
theorem typing_is_submitting :
    (∀ (t : Terminal) (lines : List String) (calls : List (List Char)), t.buffer = [] →
      (∀ line ∈ lines, ∀ c ∈ line.toList, Text.isPrintable c = true) →
      calls.flatten = keystrokes lines →
      (calls.foldl feed t).undrawn = (t.submitAll lines).undrawn ∧
        (calls.foldl feed t).buffer = []) ∧
    (∀ (t : Terminal) (front back : List Char) (c : Char), Text.isPrintable c = true →
      (t.feed (front ++ [c, '\x7f'] ++ back)).undrawn = (t.feed (front ++ back)).undrawn) ∧
    ∀ (t : Terminal) (front back : List Char) (c : Char), Text.isPrintable c = false →
      c ∉ controlKeys → t.feed (front ++ [c] ++ back) = t.feed (front ++ back) := by
  refine ⟨fun t lines calls hbuffer hlines hcalls => ?_, fun t front back c hc => ?_,
    fun t front back c hc hcontrol => ?_⟩
  · have hjoined : calls.foldl feed t = t.feed calls.flatten := List.foldl_flatten.symm
    have htyped := undrawn_feed_keystrokes hbuffer hlines
    rw [hjoined, hcalls]
    have hleft := congrArg buffer htyped
    exact ⟨htyped, hleft.trans ((t.submitAll_buffer lines).trans hbuffer)⟩
  · exact undrawn_feed_around (undrawn_feed_erased hc) t front back
  · rw [feed_append, feed_append, feed_ignored hc hcontrol, ← feed_append]

/-- A dialog is begun and answered by keystrokes that are cut within the lines and between them: the
program is stored as if the lines had been handed over. A slip and a bell make no difference. -/
theorem typing_is_submitting_dialog :
    let t := opened (Store.empty (.ofQueue []) {}) {} [] fun _ => {}
    let lines := ["create program", "Apollo", "", "", "", "use program id0001"]
    let calls := ["create pro".toList, "gram\rApollo\r\r".toList, [], "\r\ruse program id0001\r".toList]
    (calls.foldl feed t).undrawn = (t.submitAll lines).undrawn ∧
      (calls.foldl feed t).world.session.context.program = some "ID0001" ∧
      (t.feed ("create p".toList ++ ['o', '\x7f'] ++ "rogram\r".toList)).undrawn =
        (t.feed "create program\r".toList).undrawn ∧
      t.feed ("create p".toList ++ ['\x07'] ++ "rogram\r".toList) =
        t.feed "create program\r".toList := by
  intro t lines calls
  obtain ⟨hlines, hslip, hignored⟩ := typing_is_submitting
  have htyped := hlines t lines calls rfl (by decide +kernel) (by decide +kernel)
  refine ⟨htyped.1, by decide +kernel, ?_, ?_⟩
  · exact hslip t _ _ 'o' (by decide +kernel)
  · exact hignored t _ _ '\x07' (by decide +kernel) (by decide)

end Terminal

end TaskShell
