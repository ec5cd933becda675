import Mathlib.Data.List.Forall2
import TaskShell.Proofs.Terminal.History

/-!
# The display keeps up with the buffer

What a terminal writes of its own accord shows the line buffer: a character that is typed, an erasure,
a new line, the rest of a completed command. A display that replays these writes shows a current line
that stays in step with the buffer. The two can differ in letter case alone, for a completion stores
the known command and leaves the letters that were typed where they are.

## Main definitions

* `Screen.replay` — the current line of a display after some writes.
* `Chars.SameLetter` — characters that are equal but for their letter case.
* `Screen.InStep` — a display that is in step with a buffer.
* `Terminal.drawn` — the writes of a terminal in the course of some events.
* `Terminal.completedAfter` — whether a completion has replaced the buffer since the current line
  began.

## Main results

* `Chars.forall₂_sameLetter_of_begins` — a text whose lower case begins a known command has the
  letters of the command.
* `Screen.InStep.key` — a keystroke keeps display and buffer in step.
* `Terminal.echo_in_step` — whatever happens to a terminal keeps them in step.
-/

set_option autoImplicit false

namespace TaskShell

/-! ## Letter case -/

namespace Chars

/-- Characters that are equal but for their letter case. -/
def SameLetter (c d : Char) : Prop :=
  lower [c] = lower [d]

/-- Texts with the same letters as a third have the same letters. -/
lemma forall₂_sameLetter_trans {cs ds es : List Char} (h : List.Forall₂ SameLetter cs ds)
    (h' : List.Forall₂ SameLetter ds es) : List.Forall₂ SameLetter cs es := by
  induction h generalizing es with
  | nil => exact h'
  | cons hcd _ ih =>
    cases h' with
    | cons hde hrest => exact .cons (hcd.trans hde) (ih hrest)

/-- Characters that the lower case of a text has from one character each, in whatever context: they
are their own lower case, and neither a sigma nor the dot that a dotted capital `I` leaves. -/
def IsSimple (c : Char) : Prop :=
  lower [c] = [c] ∧ c ≠ 'σ' ∧ c ≠ 'ς' ∧ c ≠ Char.ofNat 775

instance (c : Char) : Decidable (IsSimple c) :=
  inferInstanceAs (Decidable (_ ∧ _ ∧ _ ∧ _))

/-- Where the lower case of a text is simple, it has the letters of the text, one by one. -/
lemma forall₂_sameLetter_lowerFrom {cs : List Char} (afterCased : Bool)
    (hsimple : ∀ c ∈ lowerFrom afterCased cs, IsSimple c) :
    List.Forall₂ SameLetter cs (lowerFrom afterCased cs) := by
  induction cs generalizing afterCased with
  | nil => exact .nil
  | cons c cs ih =>
    simp only [lowerFrom, List.forall_mem_append] at hsimple
    obtain ⟨hhead, htail⟩ := hsimple
    have hsigma : c ≠ 'Σ' := by
      rintro rfl
      rw [if_pos rfl] at hhead
      split at hhead
      · exact (hhead _ List.mem_cons_self).2.2.1 rfl
      · exact (hhead _ List.mem_cons_self).2.1 rfl
    rw [if_neg hsigma] at hhead
    have hdotted : c ≠ 'İ' := by
      rintro rfl
      exact (hhead (Char.ofNat 775) (by simp [lowerChar])).2.2.2 rfl
    have hlower : lowerChar c = [lowerSimple c] := if_neg hdotted
    rw [hlower] at hhead
    have hsame : SameLetter c (lowerSimple c) := by
      have halone : lower [c] = [lowerSimple c] := by
        simp [lower, lowerFrom, hsigma, hlower]
      exact halone.trans (hhead _ List.mem_cons_self).1.symm
    simp only [lowerFrom, if_neg hsigma, hlower, List.cons_append, List.nil_append]
    exact .cons hsame (ih _ htail)

end Chars

namespace Shortcut

/-- The known commands are written in simple characters that can be shown. -/
lemma isSimple_of_known :
    ∀ command ∈ known, ∀ c ∈ command.toList, Chars.IsSimple c ∧ Text.isPrintable c = true := by
  have hall : (known.all fun command => command.toList.all fun c =>
      decide (Chars.IsSimple c) && Text.isPrintable c) = true := by decide +kernel
  intro command hcommand c hc
  simpa using List.all_eq_true.1 (List.all_eq_true.1 hall command hcommand) c hc

/-- A candidate is a known command that begins with the lower case of the text. -/
lemma mem_complete {stem candidate : String} {limit : Int}
    (h : candidate ∈ complete stem limit) :
    candidate ∈ known ∧ Chars.lower stem.toList <+: candidate.toList := by
  have hfiltered : candidate ∈
      known.filter fun command => (Chars.lower stem.toList).isPrefixOf command.toList := by
    simp only [complete, takeLimit] at h
    split at h <;> exact List.mem_of_mem_take h
  obtain ⟨hknown, hbegins⟩ := List.mem_filter.1 hfiltered
  exact ⟨hknown, List.isPrefixOf_iff_prefix.1 hbegins⟩

/-- Candidates can be shown, and so can a list of them. -/
lemma isPrintable_of_candidates {candidates : List String}
    (h : ∀ candidate ∈ candidates, candidate ∈ known) :
    ∀ c ∈ (Text.join "  " candidates).toList, Text.isPrintable c = true := by
  induction candidates with
  | nil => exact fun c hc => nomatch hc
  | cons candidate rest ih =>
    have hfirst : ∀ c ∈ candidate.toList, Text.isPrintable c = true := fun c hc =>
      (isSimple_of_known candidate (h _ List.mem_cons_self) c hc).2
    have hrest := ih fun other hother => h other (List.mem_cons_of_mem _ hother)
    cases rest with
    | nil => exact hfirst
    | cons next rest =>
      intro c hc
      simp only [Text.join, String.toList_append, List.mem_append] at hc
      rcases hc with (hc | hc) | hc
      · exact hfirst c hc
      · have hblank : c = ' ' := by simpa using hc
        rw [hblank]
        decide +kernel
      · exact hrest c hc

end Shortcut

namespace Chars

/-- A text whose lower case begins a known command has the letters of the command, one by one. -/
theorem forall₂_sameLetter_of_begins {command : String} {cs : List Char}
    (hknown : command ∈ Shortcut.known) (h : lower cs <+: command.toList) :
    List.Forall₂ SameLetter cs (command.toList.take cs.length) := by
  have hletters : List.Forall₂ SameLetter cs (lower cs) :=
    forall₂_sameLetter_lowerFrom false fun c hc =>
      (Shortcut.isSimple_of_known command hknown c (h.subset hc)).1
  have htake : command.toList.take cs.length = lower cs := by
    rw [hletters.length_eq]
    exact (List.prefix_iff_eq_take.1 h).symm
  rw [htake]
  exact hletters

end Chars

/-! ## Replaying writes -/

namespace Screen

/-- The current line of a display after some writes: a backspace, a blank and a backspace erase its
last character, a return with a line feed starts a new line, and any other character is appended. -/
def replay (line : List Char) : List Char → List Char
  | '\x08' :: ' ' :: '\x08' :: rest => replay line.dropLast rest
  | '\r' :: '\n' :: rest => replay [] rest
  | c :: rest => replay (line ++ [c]) rest
  | [] => line

/-- After these writes the current line of a display is this one, whatever is written next. -/
def Shows (drawn line : List Char) : Prop :=
  ∀ rest, replay [] (drawn ++ rest) = replay line rest

variable {drawn line text buffer : List Char} {completed : Bool}

/-- A character that can be shown is appended. -/
lemma replay_cons {c : Char} (hc : Text.isPrintable c = true) (rest : List Char) :
    replay line (c :: rest) = replay (line ++ [c]) rest := by
  have hbackspace : c ≠ '\x08' := by
    rintro rfl
    exact absurd hc (by decide +kernel)
  have hreturn : c ≠ '\r' := by
    rintro rfl
    exact absurd hc (by decide +kernel)
  rw [replay]
  · exact fun _ h => absurd h hbackspace
  · exact fun _ h => absurd h hreturn

/-- A text that can be shown is appended. -/
lemma replay_append (htext : ∀ c ∈ text, Text.isPrintable c = true) (rest : List Char) :
    replay line (text ++ rest) = replay (line ++ text) rest := by
  induction text generalizing line with
  | nil => rw [List.nil_append, List.append_nil]
  | cons c text ih =>
    rw [List.cons_append, replay_cons (htext c List.mem_cons_self),
      ih fun d hd => htext d (List.mem_cons_of_mem _ hd), List.append_assoc, List.singleton_append]

namespace Shows

/-- Nothing is shown at first. -/
lemma nil : Shows [] [] := fun _ => rfl

/-- A text that can be shown is appended to the line. -/
lemma append (h : Shows drawn line) (htext : ∀ c ∈ text, Text.isPrintable c = true) :
    Shows (drawn ++ text) (line ++ text) := by
  intro rest
  rw [List.append_assoc, h, replay_append htext]

/-- An erasure takes the last character from the line. -/
lemma erase (h : Shows drawn line) : Shows (drawn ++ ['\x08', ' ', '\x08']) line.dropLast := by
  intro rest
  rw [List.append_assoc, h]
  rfl

/-- A new line is empty. -/
lemma newline (h : Shows drawn line) : Shows (drawn ++ ['\r', '\n']) [] := by
  intro rest
  rw [List.append_assoc, h]
  rfl

/-- The line that is shown is the current one. -/
lemma replay_eq (h : Shows drawn line) : replay [] drawn = line := by
  have hdrawn := h []
  rw [List.append_nil] at hdrawn
  exact hdrawn

end Shows

/-- A display that shows some writes is in step with a buffer: what the buffer holds can be shown,
and the current line has its letters, in the same case if no completion has replaced it. -/
structure InStep (drawn buffer : List Char) (completed : Bool) : Prop where
  printable : ∀ c ∈ buffer, Text.isPrintable c = true
  shows : ∃ line, Shows drawn line ∧ List.Forall₂ Chars.SameLetter line buffer ∧
    (completed = false → line = buffer)

namespace InStep

/-- A line that is the buffer itself is in step with it. -/
lemma of_shows (hprintable : ∀ c ∈ buffer, Text.isPrintable c = true) (h : Shows drawn buffer) :
    InStep drawn buffer completed :=
  ⟨hprintable, buffer, h, List.forall₂_same.2 fun _ _ => rfl, fun _ => rfl⟩

/-- On a new line nothing is shown, and the buffer is empty. -/
lemma newline (h : InStep drawn buffer completed)
    (htext : ∀ c ∈ text, Text.isPrintable c = true) :
    InStep (drawn ++ (text ++ ['\r', '\n'])) [] false := by
  obtain ⟨line, hshows, -⟩ := h.shows
  rw [← List.append_assoc]
  exact of_shows (fun _ hc => nomatch hc) (hshows.append htext).newline

/-- A character that is typed is shown. -/
lemma type (h : InStep drawn buffer completed) {c : Char} (hc : Text.isPrintable c = true) :
    InStep (drawn ++ [c]) (buffer ++ [c]) completed := by
  obtain ⟨line, hshows, hletters, hexact⟩ := h.shows
  have htext : ∀ d ∈ [c], Text.isPrintable d = true := List.forall_mem_singleton.2 hc
  refine ⟨List.forall_mem_append.2 ⟨h.printable, htext⟩, line ++ [c], hshows.append htext, ?_, ?_⟩
  · exact List.rel_append hletters (.cons rfl .nil)
  · intro hcompleted
    rw [hexact hcompleted]

/-- The last character is erased from the buffer and the line. -/
lemma erase (h : InStep drawn buffer completed) :
    InStep (drawn ++ ['\x08', ' ', '\x08']) buffer.dropLast completed := by
  obtain ⟨line, hshows, hletters, hexact⟩ := h.shows
  refine ⟨fun c hc => h.printable c (List.dropLast_subset _ hc), line.dropLast, hshows.erase, ?_, ?_⟩
  · rw [List.dropLast_eq_take, List.dropLast_eq_take, hletters.length_eq]
    exact List.forall₂_take _ hletters
  · intro hcompleted
    rw [hexact hcompleted]

/-- A known command that begins with the lower case of the buffer takes its place: the line has the
letters of the command once the rest of it is written. -/
lemma fill (h : InStep drawn buffer completed) {command : String}
    (hknown : command ∈ Shortcut.known) (hbegins : Chars.lower buffer <+: command.toList) :
    InStep (drawn ++ command.toList.drop buffer.length) command.toList true := by
  obtain ⟨line, hshows, hletters, -⟩ := h.shows
  have hprintable : ∀ c ∈ command.toList, Text.isPrintable c = true := fun c hc =>
    (Shortcut.isSimple_of_known command hknown c hc).2
  have htyped : List.Forall₂ Chars.SameLetter line (command.toList.take buffer.length) :=
    Chars.forall₂_sameLetter_trans hletters (Chars.forall₂_sameLetter_of_begins hknown hbegins)
  have hrest : List.Forall₂ Chars.SameLetter (command.toList.drop buffer.length)
      (command.toList.drop buffer.length) :=
    List.forall₂_same.2 fun _ _ => rfl
  refine ⟨hprintable, _, hshows.append fun c hc => hprintable c (List.mem_of_mem_drop hc), ?_,
    fun hcompleted => nomatch hcompleted⟩
  have hall := List.rel_append htyped hrest
  beta_reduce at hall
  rwa [List.take_append_drop] at hall

/-- Below a list that can be shown, the buffer is written again. -/
lemma relist (h : InStep drawn buffer completed)
    (htext : ∀ c ∈ text, Text.isPrintable c = true) :
    InStep (drawn ++ (['\r', '\n'] ++ text ++ ['\r', '\n'] ++ buffer)) buffer false := by
  obtain ⟨line, hshows, -⟩ := h.shows
  have hlisted : Shows (drawn ++ ['\r', '\n'] ++ text ++ ['\r', '\n'] ++ buffer) buffer :=
    (hshows.newline.append htext).newline.append h.printable
  refine of_shows h.printable ?_
  simpa only [List.append_assoc] using hlisted

end InStep

end Screen

/-! ## Keystrokes -/

namespace Terminal

open Screen

/-- The known commands that a tab completes the buffer to. -/
def candidates (t : Terminal) : List String :=
  if t.prompt.isSome then [] else Shortcut.complete (String.ofList t.buffer)

/-- A keystroke begins a new line on the display: the line is submitted or forgotten, or written
again below a list of candidates. -/
def beginsLine (t : Terminal) (c : Char) : Bool :=
  c == '\r' || c == '\x03' || (c == '\t' && decide (2 ≤ t.candidates.length))

/-- A keystroke replaces the buffer with the only candidate. -/
def fillsBuffer (t : Terminal) (c : Char) : Bool :=
  c == '\t' && t.candidates.length == 1

/-- Whether a completion has replaced the buffer since the current line began, after some more
keystrokes. -/
def completedSince (t : Terminal) (completed : Bool) : List Char → Bool
  | [] => completed
  | c :: cs =>
    (t.key c).completedSince (!t.beginsLine c && (completed || t.fillsBuffer c)) cs

/-- Whether a completion has replaced the buffer since the current line began, after an event. -/
def completedBy (t : Terminal) (completed : Bool) : Event → Bool
  | .feed keys => t.cleared.completedSince completed keys.toList
  | .interrupt => false
  | _ => completed

/-- Whether a completion has replaced the buffer since the current line began, after some events. -/
def completedAfter (t : Terminal) (completed : Bool) : List Event → Bool
  | [] => completed
  | event :: events => (t.perform event).2.completedAfter (t.completedBy completed event) events

/-- What a terminal writes of its own accord in the course of some events. -/
def drawn (t : Terminal) : List Event → List Char
  | [] => []
  | event :: events => (t.perform event).2.echo ++ (t.perform event).2.drawn events

variable {t : Terminal} {past : List Char} {completed : Bool}

/-- An action leaves the buffer and the display alone. -/
lemma settle_typed (t : Terminal) (outcome : Except Failure (Progress Activity) × World) :
    (t.settle outcome).buffer = t.buffer ∧ (t.settle outcome).echo = t.echo :=
  ⟨rfl, rfl⟩

/-- An answer leaves the buffer and the display alone. -/
lemma answer_typed (t : Terminal) (line : String) :
    (t.answer line).1.buffer = t.buffer ∧ (t.answer line).1.echo = t.echo := by
  unfold answer
  split
  · exact ⟨rfl, rfl⟩
  · exact ⟨rfl, rfl⟩
  · exact settle_typed _ _

/-- A command leaves the buffer and the display alone. -/
lemma command_typed (t : Terminal) (line : String) :
    (t.command line).buffer = t.buffer ∧ (t.command line).echo = t.echo := by
  unfold command
  split
  · exact t.answer_typed line
  · split
    · exact ⟨rfl, rfl⟩
    · exact t.settle_typed _

/-- A complete line leaves the buffer and the display alone. -/
lemma submit_typed (t : Terminal) (line : String) :
    (t.submit line).1.buffer = t.buffer ∧ (t.submit line).1.echo = t.echo := by
  unfold submit
  split
  · exact t.answer_typed line
  · split
    · exact ⟨rfl, rfl⟩
    · exact t.command_typed line

/-- A record stored past the terminal leaves the buffer and the display alone. -/
lemma put_typed (t : Terminal) (kind : String) (data : Fields) :
    (t.put kind data).2.buffer = t.buffer ∧ (t.put kind data).2.echo = t.echo := by
  unfold put
  split <;> exact ⟨rfl, rfl⟩

/-- A tab keeps display and buffer in step. -/
lemma inStep_complete (h : InStep (past ++ t.echo) t.buffer completed) :
    InStep (past ++ t.complete.echo) t.complete.buffer
      (!t.beginsLine '\t' && (completed || t.fillsBuffer '\t')) := by
  have hkey : (!t.beginsLine '\t' && (completed || t.fillsBuffer '\t')) =
      (!decide (2 ≤ t.candidates.length) && (completed || t.candidates.length == 1)) := rfl
  rw [hkey]
  by_cases hprompt : t.prompt.isSome
  · have hcandidates : t.candidates = [] := if_pos hprompt
    rw [show t.complete = t from if_pos hprompt, hcandidates]
    simpa using h
  have hcandidates : t.candidates = Shortcut.complete (String.ofList t.buffer) := if_neg hprompt
  have hknown : ∀ candidate ∈ t.candidates, candidate ∈ Shortcut.known ∧
      Chars.lower t.buffer <+: candidate.toList := by
    intro candidate hcandidate
    rw [hcandidates] at hcandidate
    simpa using Shortcut.mem_complete hcandidate
  unfold complete
  rw [if_neg hprompt, ← hcandidates]
  rcases hfound : t.candidates with _ | ⟨candidate, _ | ⟨next, rest⟩⟩
  · simpa using h
  · obtain ⟨hmem, hbegins⟩ := hknown candidate (by simp [hfound])
    have hfilled := h.fill hmem hbegins
    rw [List.append_assoc] at hfilled
    simpa [draw] using hfilled
  · have htext := Shortcut.isPrintable_of_candidates fun candidate hcandidate =>
      (hknown candidate hcandidate).1
    have hrelisted := h.relist htext
    rw [hfound, List.append_assoc] at hrelisted
    simpa [draw] using hrelisted

/-- A new line on the display while the buffer is emptied: it is written below what can be shown. -/
lemma inStep_newline (h : InStep (past ++ t.echo) t.buffer completed) (text : List Char)
    (htext : ∀ c ∈ text, Text.isPrintable c = true) :
    InStep (past ++ (t.echo ++ (text ++ ['\r', '\n']))) [] false := by
  have hnew := h.newline htext
  rwa [List.append_assoc] at hnew

/-- A line that is forgotten keeps display and buffer in step. -/
lemma inStep_interrupt (h : InStep (past ++ t.echo) t.buffer completed) :
    InStep (past ++ t.interrupt.echo) t.interrupt.buffer false :=
  inStep_newline h ['^', 'C'] (List.all_eq_true.1 (by decide +kernel))

/-- A keystroke keeps display and buffer in step. -/
theorem inStep_key (h : InStep (past ++ t.echo) t.buffer completed) (c : Char) :
    InStep (past ++ (t.key c).echo) (t.key c).buffer
      (!t.beginsLine c && (completed || t.fillsBuffer c)) := by
  unfold key
  by_cases hsubmit : c = '\r'
  · subst hsubmit
    obtain ⟨hbuffer, hecho⟩ := ({ t with buffer := [] }.draw ['\r', '\n']).submit_typed
      (String.ofList t.buffer)
    have hnew := inStep_newline h [] fun _ hc => nomatch hc
    rw [if_pos rfl, hbuffer, hecho]
    exact hnew
  rw [if_neg hsubmit]
  by_cases herase : c = '\x7f'
  · subst herase
    have hflag : (!t.beginsLine '\x7f' && (completed || t.fillsBuffer '\x7f')) = completed :=
      Bool.or_false completed
    rw [if_pos rfl, hflag]
    split
    · exact h
    · have herased := h.erase
      rwa [List.append_assoc] at herased
  rw [if_neg herase]
  by_cases hinterrupt : c = '\x03'
  · subst hinterrupt
    rw [if_pos rfl]
    exact inStep_interrupt h
  rw [if_neg hinterrupt]
  by_cases htab : c = '\t'
  · subst htab
    rw [if_pos rfl]
    exact inStep_complete h
  rw [if_neg htab]
  have hflag : (!t.beginsLine c && (completed || t.fillsBuffer c)) = completed := by
    unfold beginsLine fillsBuffer
    rw [beq_false_of_ne hsubmit, beq_false_of_ne hinterrupt, beq_false_of_ne htab]
    exact Bool.or_false completed
  rw [hflag]
  split
  · next hprintable =>
    have htyped := h.type hprintable
    rwa [List.append_assoc] at htyped
  · exact h

/-- Keystrokes keep display and buffer in step. -/
theorem inStep_feed (h : InStep (past ++ t.echo) t.buffer completed) (keys : List Char) :
    InStep (past ++ (t.feed keys).echo) (t.feed keys).buffer (t.completedSince completed keys) := by
  induction keys generalizing t completed with
  | nil => exact h
  | cons c cs ih => exact ih (inStep_key h c)

/-- Whatever happens to a terminal keeps display and buffer in step. -/
theorem inStep_perform (h : InStep past t.buffer completed) (event : Event) :
    InStep (past ++ (t.perform event).2.echo) (t.perform event).2.buffer
      (t.completedBy completed event) := by
  have hcleared : InStep (past ++ t.cleared.echo) t.cleared.buffer completed := by
    rwa [show t.cleared.echo = [] from rfl, List.append_nil]
  have hquiet : ∀ t' : Terminal, t'.buffer = t.cleared.buffer ∧ t'.echo = t.cleared.echo →
      InStep (past ++ t'.echo) t'.buffer completed := by
    rintro t' ⟨hbuffer, hecho⟩
    rwa [hbuffer, hecho]
  cases event with
  | feed keys => exact inStep_feed hcleared keys.toList
  | interrupt => exact inStep_interrupt hcleared
  | command line => exact hquiet _ (t.cleared.command_typed line)
  | answer line => exact hquiet _ (t.cleared.answer_typed line)
  | submit line => exact hquiet _ (t.cleared.submit_typed line)
  | store kind data => exact hquiet _ (t.cleared.put_typed kind data)
  | processing value | reset | askRefusal message | refuse operation message | dump kind =>
    exact hcleared

/-- Whatever happens to a terminal in turn keeps display and buffer in step. -/
theorem inStep_after (h : InStep past t.buffer completed) (events : List Event) :
    InStep (past ++ t.drawn events) (t.after events).buffer
      (t.completedAfter completed events) := by
  induction events generalizing t past completed with
  | nil =>
    rw [drawn, List.append_nil]
    exact h
  | cons event events ih =>
    rw [drawn, ← List.append_assoc]
    exact ih (inStep_perform h event)

/-- **The display stays in step with the buffer.** A terminal starts with an empty buffer and a
fresh display, with whatever world, question and aliases. Whatever happens to it, keystrokes of any
characters among it: its buffer holds only characters that can be shown, and a display that replays
what the terminal has written of its own accord shows a current line that is as long as the buffer,
has its letters one by one up to their case, and is the buffer itself if no completion has replaced
it since that line began.

**Proof sketch.** Induction on the events and, within one of them, on the keystrokes; lines that are
submitted leave buffer and display alone. A character that is typed, an erasure and a new line do
the same to both. A completion stores a known command whose beginning is the lower case of the
buffer. Known commands hold neither a sigma nor the dot above that lower case makes of a dotted
capital `I`, so each of their characters comes from one that was typed; what is written then is the
command from the length of the buffer on. -/
theorem echo_in_step (t : Terminal) (hempty : t.buffer = []) (events : List Event) :
    let buffer := (t.after events).buffer
    let line := Screen.replay [] (t.drawn events)
    (∀ c ∈ buffer, Text.isPrintable c = true) ∧ line.length = buffer.length ∧
      List.Forall₂ Chars.SameLetter line buffer ∧
      (t.completedAfter false events = false → line = buffer) := by
  intro buffer line
  have hstart : InStep [] t.buffer false := by
    rw [hempty]
    exact .of_shows (fun _ hc => nomatch hc) .nil
  have hend : InStep (t.drawn events) buffer (t.completedAfter false events) :=
    inStep_after hstart events
  obtain ⟨shown, hshows, hletters, hexact⟩ := hend.shows
  have hline : line = shown := hshows.replay_eq
  rw [hline]
  exact ⟨hend.printable, hletters.length_eq, hletters, hexact⟩

/-- A dialog is begun and answered by keystrokes, where a tab does nothing. When `MAN C` is completed
to `man create` after it, the display keeps the letters that were typed. -/
theorem echo_in_step_letters :
    let t := opened (Store.empty (.ofQueue []) {}) {} [] fun _ => {}
    let events := [Terminal.Event.feed "create program\r\tApolloo\x7f\r", .reset, .feed "MAN C\t"]
    Screen.replay [] (t.drawn events) = "MAN Create".toList ∧
      (t.after events).buffer = "man create".toList ∧
      List.Forall₂ Chars.SameLetter (Screen.replay [] (t.drawn events)) (t.after events).buffer := by
  intro t events
  obtain ⟨-, -, hletters, -⟩ := echo_in_step t rfl events
  exact ⟨by decide +kernel, by decide +kernel, hletters⟩

end Terminal

end TaskShell
