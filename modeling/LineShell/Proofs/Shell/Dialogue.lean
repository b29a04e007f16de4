import LineShell.CommandLine.Basic
import LineShell.Proofs.Shell.Line

/-! A session as a dialogue. The items of a terminal are cut, before anything is executed, into the
parts that make up a command each or are dropped by an interrupt; the session then answers the parts
one after the other, in one context, until one of them ends it or the input is over. -/

namespace LineShell

namespace Entry

/-- What lines add to a command that goes on behind them: a backslash at the end of a line is dropped,
and behind any other line comes a line break. -/
def carried (lines : List Text) : Text :=
  lines.flatMap fun l => if l.getLast? = some '\\' then l.dropLast else l ++ ['\n']

structure Completes (lines : List Text) (l : Text) : Prop where
  ends : l.getLast? ≠ some '\\'
  complete : (carried lines ++ l).isComplete

def Open (before lines : List Text) : Prop :=
  ∀ pre l post, lines = pre ++ l :: post → ¬ Completes (before ++ pre) l

structure Part where
  lines : List Text
  last : TerminalItem

namespace Part

def items (p : Part) : List TerminalItem :=
  p.lines.map some ++ [p.last]

structure WellFormed (p : Part) : Prop where
  lines : Open [] p.lines
  last : ∀ l, p.last = some l → Completes p.lines l

def ending (p : Part) : EntryEnd :=
  match p.last with
  | none => .interrupted
  | some l => .command (carried p.lines ++ l)

end Part

structure Segmentation (items : List TerminalItem) (ps : List Part) (tail : List Text) : Prop where
  items : items = ps.flatMap Part.items ++ tail.map some
  parts : ∀ p ∈ ps, p.WellFormed
  tail : Open [] tail

lemma carried_append (lines : List Text) (l : Text) :
    carried (lines ++ [l]) =
      carried lines ++ if l.getLast? = some '\\' then l.dropLast else l ++ ['\n'] := by
  simp [carried]

lemma open_nil (before : List Text) : Open before [] := by
  intro pre l post h
  simp at h

lemma open_cons_iff {before lines : List Text} {l : Text} :
    Open before (l :: lines) ↔ ¬ Completes before l ∧ Open (before ++ [l]) lines := by
  constructor
  · intro h
    refine ⟨by simpa using h [] l lines rfl, fun pre m post hm => ?_⟩
    have := h (l :: pre) m post (by rw [hm, List.cons_append])
    rwa [List.append_assoc]
  · rintro ⟨hl, hlines⟩ pre m post hm
    cases pre with
    | nil =>
      obtain ⟨rfl, -⟩ := List.cons.inj hm
      rwa [List.append_nil]
    | cons k pre =>
      obtain ⟨rfl, htail⟩ := List.cons.inj hm
      have := hlines pre m post htail
      rwa [List.append_assoc] at this

lemma open_append_singleton {before lines : List Text} {l : Text} (h : Open before lines)
    (hl : ¬ Completes (before ++ lines) l) : Open before (lines ++ [l]) := by
  induction lines generalizing before with
  | nil => exact open_cons_iff.mpr ⟨by simpa using hl, open_nil _⟩
  | cons k lines ih =>
    obtain ⟨hk, hlines⟩ := open_cons_iff.mp h
    exact open_cons_iff.mpr ⟨hk, ih hlines (by simpa using hl)⟩

section

variable {before lines : List Text} {l : Text}

lemma readFrom_of_open (h : ¬ Completes before l) (shown : Text) (rest : List TerminalItem) :
    readFrom shown (carried before) (some l :: rest) =
      { readFrom continuationPrompt (carried (before ++ [l])) rest with
        prompts := shown :: (readFrom continuationPrompt (carried (before ++ [l])) rest).prompts } := by
  rw [readFrom, carried_append]
  by_cases hl : l.getLast? = some '\\'
  · rw [if_pos hl, if_pos hl]
  · have hopen : ¬ (carried before ++ l).isComplete := fun hc => h ⟨hl, hc⟩
    rw [if_neg hl, if_neg hl, if_neg hopen, List.append_assoc]

lemma readFrom_of_completes (h : Completes before l) (shown : Text) (rest : List TerminalItem) :
    readFrom shown (carried before) (some l :: rest) =
      ⟨[shown], .command (carried before ++ l), rest⟩ := by
  rw [readFrom, if_neg h.ends, if_pos h.complete]

-- By induction on the lines: each of them leaves the command open and is followed by the prompt for
-- its continuation.
lemma readFrom_append {items rest : List TerminalItem} {ending : EntryEnd} (h : Open before lines)
    (hstop : ∀ shown, readFrom shown (carried (before ++ lines)) items = ⟨[shown], ending, rest⟩)
    (shown : Text) :
    readFrom shown (carried before) (lines.map some ++ items) =
      ⟨shown :: List.replicate lines.length continuationPrompt, ending, rest⟩ := by
  induction lines generalizing before shown with
  | nil => simpa using hstop shown
  | cons l lines ih =>
    obtain ⟨hl, hlines⟩ := open_cons_iff.mp h
    have hrest := ih hlines (by simpa using hstop) continuationPrompt
    rw [List.map_cons, List.cons_append, readFrom_of_open hl, hrest]
    rfl

end

lemma read_part {p : Part} (h : p.WellFormed) (rest : List TerminalItem) :
    read (p.items ++ rest) =
      ⟨prompt :: List.replicate p.lines.length continuationPrompt, p.ending, rest⟩ := by
  obtain ⟨lines, last⟩ := p
  rw [Part.items, List.append_assoc]
  refine readFrom_append h.lines (fun shown => ?_) prompt
  cases last with
  | none => rfl
  | some l => exact readFrom_of_completes (h.last l rfl) shown rest

lemma read_tail {tail : List Text} (h : Open [] tail) :
    read (tail.map some) =
      ⟨prompt :: List.replicate tail.length continuationPrompt, .ended, []⟩ := by
  have hstop : ∀ shown, readFrom shown (carried ([] ++ tail)) [] = ⟨[shown], .ended, []⟩ :=
    fun _ => rfl
  have hread := readFrom_append h hstop prompt
  rwa [List.append_nil] at hread

lemma Part.items_injective {p q : Part} (h : p.items = q.items) : p = q := by
  obtain ⟨lines, last⟩ := p
  obtain ⟨lines', last'⟩ := q
  obtain ⟨hlines, hlast⟩ := List.append_inj' h rfl
  obtain rfl : lines = lines' := (List.map_inj_right fun _ _ => Option.some.inj).mp hlines
  obtain rfl : last = last' := List.singleton_inj.mp hlast
  rfl

-- The induction is on the items that are left, behind lines that leave a command open.
lemma exists_segmentation_behind {lines : List Text} (h : Open [] lines)
    (items : List TerminalItem) : ∃ ps tail, Segmentation (lines.map some ++ items) ps tail := by
  induction items generalizing lines with
  | nil => exact ⟨[], lines, by simp, by simp, h⟩
  | cons item items ih =>
    have hclose : ∀ p : Part, p.lines = lines → p.last = item → p.WellFormed →
        ∃ ps tail, Segmentation (lines.map some ++ item :: items) ps tail := by
      rintro p rfl rfl hp
      obtain ⟨ps, tail, hseg⟩ := ih (open_nil [])
      refine ⟨p :: ps, tail, ?_, List.forall_mem_cons.mpr ⟨hp, hseg.parts⟩, hseg.tail⟩
      have hitems : items = ps.flatMap Part.items ++ tail.map some := hseg.items
      rw [hitems, List.flatMap_cons, Part.items]
      simp
    cases item with
    | none => exact hclose ⟨lines, none⟩ rfl rfl ⟨h, by simp⟩
    | some l =>
      by_cases hl : Completes lines l
      · refine hclose ⟨lines, some l⟩ rfl rfl ⟨h, fun m hm => ?_⟩
        obtain rfl := Option.some.inj hm
        exact hl
      · obtain ⟨ps, tail, hseg⟩ := ih (open_append_singleton h hl)
        exact ⟨ps, tail, by simpa using hseg.items, hseg.parts, hseg.tail⟩

lemma exists_segmentation (items : List TerminalItem) :
    ∃ ps tail, Segmentation items ps tail :=
  exists_segmentation_behind (open_nil []) items

lemma Part.ending_ne_ended (p : Part) : p.ending ≠ .ended := by
  obtain ⟨lines, last⟩ := p
  cases last <;> simp [ending]

section

variable {items : List TerminalItem} {p : Part} {ps qs : List Part} {tail tail' : List Text}

lemma Segmentation.read_nil (h : Segmentation items [] tail) :
    read items = ⟨prompt :: List.replicate tail.length continuationPrompt, .ended, []⟩ := by
  have hitems : items = tail.map some := h.items
  rw [hitems]
  exact read_tail h.tail

lemma Segmentation.read_cons (h : Segmentation items (p :: ps) tail) :
    read items = ⟨prompt :: List.replicate p.lines.length continuationPrompt, p.ending,
      ps.flatMap Part.items ++ tail.map some⟩ := by
  rw [h.items, List.flatMap_cons, List.append_assoc]
  exact read_part (List.forall_mem_cons.mp h.parts).1 _

lemma Segmentation.rest (h : Segmentation items (p :: ps) tail) :
    Segmentation (ps.flatMap Part.items ++ tail.map some) ps tail :=
  ⟨rfl, (List.forall_mem_cons.mp h.parts).2, h.tail⟩

-- Reading finds the end of the first part, so there is only one way to cut.
lemma Segmentation.unique (h : Segmentation items ps tail) (h' : Segmentation items qs tail') :
    ps = qs ∧ tail = tail' := by
  induction ps generalizing items qs with
  | nil =>
    cases qs with
    | nil =>
      have hsame := h.items.symm.trans h'.items
      exact ⟨rfl, (List.map_inj_right fun _ _ => Option.some.inj).mp hsame⟩
    | cons q qs =>
      have hending := congrArg Entry.ending (h.read_nil.symm.trans h'.read_cons)
      exact absurd hending.symm q.ending_ne_ended
  | cons p ps ih =>
    cases qs with
    | nil =>
      have hending := congrArg Entry.ending (h.read_cons.symm.trans h'.read_nil)
      exact absurd hending p.ending_ne_ended
    | cons q qs =>
      have hrest : ps.flatMap Part.items ++ tail.map some =
          qs.flatMap Part.items ++ tail'.map some :=
        congrArg Entry.rest (h.read_cons.symm.trans h'.read_cons)
      have hitems := h.items.symm.trans h'.items
      rw [List.flatMap_cons, List.flatMap_cons, List.append_assoc, List.append_assoc, hrest] at hitems
      obtain rfl := Part.items_injective (List.append_cancel_right hitems)
      obtain ⟨rfl, rfl⟩ := ih h.rest (hrest ▸ h'.rest)
      exact ⟨rfl, rfl⟩

end

end Entry

open Entry CommandLine

structure Transcript where
  reads : Nat
  stdout : Text
  stderr : Text
  calls : List Call
  unread : Nat
  ending : Ending

namespace Transcript

def ofSession (reads : Nat) (s : Session) : Transcript where
  reads := reads
  stdout := (Report.session false s).stdout
  stderr := (Report.session false s).stderr
  calls := s.calls
  unread := s.unread
  ending := s.ending

def following (given : List Text) (reads : Nat) (s : Session) : Transcript :=
  { ofSession reads s with
    stderr := (Event.unrepeated given s.events).flatMap (Report.stderrOf false) }

def behind (t : Transcript) (reads : Nat) (stdout stderr : Text) (calls : List Call) :
    Transcript :=
  { t with
    reads := reads + t.reads
    stdout := stdout ++ t.stdout
    stderr := stderr ++ t.stderr
    calls := calls ++ t.calls }

end Transcript

namespace Shell

def asked (lines : List Text) : Text :=
  "$ ".toList ++ (List.replicate lines.length "> ".toList).flatten

def Reported (f : LineFault) : Prop :=
  (∃ e, f = .parse e) ∨ ∃ e, f = .run (.failure e)

def overheard (given : List Text) : List Remark → Text
  | [] => []
  | .note _ :: rs => overheard given rs
  | .aside t :: rs => t ++ overheard given rs
  | .warning t :: rs => (if t ∈ given then [] else t) ++ overheard (t :: given) rs

def warned (given : List Text) (rs : List Remark) : List Text :=
  (rs.filterMap Remark.warning?).reverse ++ given

/-- Parts answered one after the other, each in the context that the one before it left, up to the
end of the input or to the first part that ends the session. -/
inductive Dialogue (w : World) :
    List Text → Context → List Part → List Text → Transcript → Prop
  | finished {given : List Text} {c : Context} {tail : List Text} :
      Dialogue w given c [] tail ⟨tail.length + 1, asked tail ++ ['\n'], [], [], 0, .status 0⟩
  | interrupted {given : List Text} {c : Context} {lines tail : List Text} {ps : List Part}
      {t : Transcript} :
      Dialogue w given c ps tail t →
      Dialogue w given c (⟨lines, none⟩ :: ps) tail
        (t.behind (lines.length + 1) (asked lines ++ ['\n']) [] [])
  | answered {given : List Text} {c : Context} {lines tail : List Text} {l output : Text}
      {ps : List Part} {r : LineRun} {t : Transcript} :
      execute w c (carried lines ++ l) = r → r.outcome = .ok output →
      Dialogue w (warned given r.remarks) r.context ps tail t →
      Dialogue w given c (⟨lines, some l⟩ :: ps) tail
        (t.behind (lines.length + 1) (asked lines ++ output) (overheard given r.remarks) r.calls)
  | reported {given : List Text} {c : Context} {lines tail : List Text} {l : Text} {f : LineFault}
      {ps : List Part} {r : LineRun} {t : Transcript} :
      execute w c (carried lines ++ l) = r → r.outcome = .error f → Reported f →
      Dialogue w (warned given r.remarks) r.context ps tail t →
      Dialogue w given c (⟨lines, some l⟩ :: ps) tail
        (t.behind (lines.length + 1) (asked lines)
          (overheard given r.remarks ++ ("minish: ".toList ++ f.message ++ ['\n'])) r.calls)
  | left {given : List Text} {c : Context} {lines tail : List Text} {l : Text} {status : Int}
      {ps : List Part} {r : LineRun} :
      execute w c (carried lines ++ l) = r → r.outcome = .error (.run (.exit status)) →
      Dialogue w given c (⟨lines, some l⟩ :: ps) tail
        ⟨lines.length + 1, asked lines, overheard given r.remarks, r.calls,
          (ps.flatMap Part.items ++ tail.map some).length, .status status⟩
  | broken {given : List Text} {c : Context} {lines tail : List Text} {l : Text} {b : Breakdown}
      {ps : List Part} {r : LineRun} :
      execute w c (carried lines ++ l) = r → r.outcome = .error (.run (.breakdown b)) →
      Dialogue w given c (⟨lines, some l⟩ :: ps) tail
        ⟨lines.length + 1, asked lines, overheard given r.remarks, r.calls,
          (ps.flatMap Part.items ++ tail.map some).length, .breakdown b⟩

section

variable {w : World} {given : List Text} {c : Context} {ps : List Part} {tail : List Text}
  {t t' : Transcript}

lemma Dialogue.unique (h : Dialogue w given c ps tail t) (h' : Dialogue w given c ps tail t') :
    t = t' := by
  induction h generalizing t' with
  | finished =>
    cases h'
    rfl
  | interrupted _ ih =>
    cases h' with
    | interrupted hrest => rw [ih hrest]
  | answered hx ho _ ih =>
    subst hx
    cases h' with
    | answered hx ho' hrest =>
      subst hx
      obtain rfl := Except.ok.inj (ho.symm.trans ho')
      rw [ih hrest]
    | reported hx ho' | left hx ho' | broken hx ho' =>
      subst hx
      cases ho.symm.trans ho'
  | reported hx ho hr _ ih =>
    subst hx
    cases h' with
    | answered hx ho' =>
      subst hx
      cases ho.symm.trans ho'
    | reported hx ho' _ hrest =>
      subst hx
      obtain rfl := Except.error.inj (ho.symm.trans ho')
      rw [ih hrest]
    | left hx ho' | broken hx ho' =>
      subst hx
      obtain rfl := Except.error.inj (ho.symm.trans ho')
      simp [Reported] at hr
  | left hx ho =>
    subst hx
    cases h' with
    | answered hx ho' | broken hx ho' =>
      subst hx
      cases ho.symm.trans ho'
    | reported hx ho' hr =>
      subst hx
      obtain rfl := Except.error.inj (ho.symm.trans ho')
      simp [Reported] at hr
    | left hx ho' =>
      subst hx
      cases ho.symm.trans ho'
      rfl
  | broken hx ho =>
    subst hx
    cases h' with
    | answered hx ho' | left hx ho' =>
      subst hx
      cases ho.symm.trans ho'
    | reported hx ho' hr =>
      subst hx
      obtain rfl := Except.error.inj (ho.symm.trans ho')
      simp [Reported] at hr
    | broken hx ho' =>
      subst hx
      cases ho.symm.trans ho'
      rfl

lemma Dialogue.reads_eq (h : Dialogue w given c ps tail t) :
    t.reads + t.unread = (ps.flatMap Part.items ++ tail.map some).length ∨
      t.reads = (ps.flatMap Part.items ++ tail.map some).length + 1 ∧ t.unread = 0 := by
  induction h with
  | finished => simp
  | interrupted _ ih | answered _ _ _ ih | reported _ _ _ _ ih =>
    simp only [Transcript.behind, List.flatMap_cons, Part.items, List.length_append, List.length_map,
      List.length_singleton] at ih ⊢
    omega
  | left | broken =>
    simp only [List.flatMap_cons, Part.items, List.length_append, List.length_map,
      List.length_singleton]
    omega

end

section

variable {w : World} {c d : Context} {items : List TerminalItem} {e : Entry}

lemma run_of_error {x : Ending} (hread : Entry.read items = e)
    (h : (round w c e.ending).next = .error x) :
    run w c items = ⟨e.prompts.map .out ++ (round w c e.ending).events,
      (round w c e.ending).calls, e.rest.length, x⟩ := by
  subst hread
  rw [run]
  split
  · rename_i y hy
    cases h.symm.trans hy
    rfl
  · rename_i d hd
    cases h.symm.trans hd

lemma run_of_ok (hread : Entry.read items = e) (h : (round w c e.ending).next = .ok d) :
    run w c items = (run w d e.rest).after (e.prompts.map .out ++ (round w c e.ending).events)
      (round w c e.ending).calls := by
  subst hread
  rw [run]
  split
  · rename_i y hy
    cases h.symm.trans hy
  · rename_i d' hd
    cases h.symm.trans hd
    rfl

end

section

variable {given : List Text}

lemma givenAfter_cons (e : Event) (es : List Event) :
    Event.givenAfter given (e :: es) = Event.givenAfter (Event.givenAfter given [e]) es := by
  cases h : e.warning? <;> simp [Event.givenAfter, h]

lemma unrepeated_append (es es' : List Event) :
    Event.unrepeated given (es ++ es') =
      Event.unrepeated given es ++ Event.unrepeated (Event.givenAfter given es) es' := by
  induction es generalizing given with
  | nil => rfl
  | cons e es ih =>
    rw [List.cons_append, Event.unrepeated, Event.unrepeated, ih, ← givenAfter_cons]
    split
    · rfl
    · rfl

lemma givenAfter_of_plain {es : List Event} (h : ∀ e ∈ es, e.warning? = none) :
    Event.givenAfter given es = given := by
  rw [Event.givenAfter, List.filterMap_eq_nil_iff.mpr h]
  rfl

lemma unrepeated_of_plain {es : List Event} (h : ∀ e ∈ es, e.warning? = none) :
    Event.unrepeated given es = es := by
  induction es with
  | nil => rfl
  | cons e es ih =>
    obtain ⟨he, hes⟩ := List.forall_mem_cons.mp h
    have hgiven : Event.givenAfter given [e] = given :=
      givenAfter_of_plain (List.forall_mem_singleton.mpr he)
    rw [Event.unrepeated, hgiven, ih hes, he]
    rfl

lemma givenAfter_remarks (rs : List Remark) :
    Event.givenAfter given (rs.map .remark) = warned given rs := by
  rw [Event.givenAfter, List.filterMap_map]
  rfl

lemma stderr_remarks (rs : List Remark) :
    (Event.unrepeated given (rs.map .remark)).flatMap (Report.stderrOf false) =
      overheard given rs := by
  induction rs generalizing given with
  | nil => rfl
  | cons r rs ih =>
    cases r with
    | note n | aside t => exact congrArg _ (@ih given)
    | warning t =>
      have hrest := @ih (t :: given)
      by_cases ht : t ∈ given
      · simpa [Event.unrepeated, Event.warning?, Remark.warning?, Event.givenAfter, overheard, ht]
          using hrest
      · simpa [Event.unrepeated, Event.warning?, Remark.warning?, Event.givenAfter, overheard, ht,
          Report.stderrOf] using hrest

end

section

variable {given : List Text} {lines : List Text} {remarks : List Remark} {events : List Event}

def answer (lines : List Text) (remarks : List Remark) (events : List Event) : List Event :=
  (prompt :: List.replicate lines.length continuationPrompt).map .out ++
    (remarks.map .remark ++ events)

lemma stdout_answer :
    (answer lines remarks events).flatMap Report.stdoutOf =
      asked lines ++ events.flatMap Report.stdoutOf := by
  have hremarks : (remarks.map Event.remark).flatMap Report.stdoutOf = [] := by
    simp [List.flatMap_map, Report.stdoutOf]
  have hprompts : ∀ ts : List Text, (ts.map Event.out).flatMap Report.stdoutOf = ts.flatten := by
    intro ts
    simp [List.flatMap_map, Report.stdoutOf]
  rw [answer, List.flatMap_append, List.flatMap_append, hremarks, hprompts, List.nil_append]
  rfl

lemma plain_prompts (ts : List Text) : ∀ e ∈ ts.map Event.out, e.warning? = none := by
  simp [Event.warning?]

lemma givenAfter_answer (h : ∀ e ∈ events, e.warning? = none) :
    Event.givenAfter given (answer lines remarks events) = warned given remarks := by
  rw [answer, Event.givenAfter, List.filterMap_append, List.filterMap_append,
    List.filterMap_eq_nil_iff.mpr (plain_prompts _), List.filterMap_eq_nil_iff.mpr h,
    List.append_nil, List.nil_append]
  exact givenAfter_remarks remarks

lemma stderr_answer (h : ∀ e ∈ events, e.warning? = none) :
    (Event.unrepeated given (answer lines remarks events)).flatMap (Report.stderrOf false) =
      overheard given remarks ++ events.flatMap (Report.stderrOf false) := by
  have hprompts : ∀ ts : List Text, (ts.map Event.out).flatMap (Report.stderrOf false) = [] := by
    intro ts
    simp [List.flatMap_map, Report.stderrOf]
  rw [answer, unrepeated_append, unrepeated_of_plain (plain_prompts _),
    givenAfter_of_plain (plain_prompts _), unrepeated_append, unrepeated_of_plain h,
    List.flatMap_append, List.flatMap_append, hprompts, stderr_remarks, List.nil_append]

lemma following_answer (h : ∀ e ∈ events, e.warning? = none) (n : Nat) (calls : List Call)
    (unread : Nat) (x : Ending) :
    Transcript.following given n ⟨answer lines remarks events, calls, unread, x⟩ =
      ⟨n, asked lines ++ events.flatMap Report.stdoutOf,
        overheard given remarks ++ events.flatMap (Report.stderrOf false), calls, unread, x⟩ := by
  simp only [Transcript.following, Transcript.ofSession, Report.stdout, stdout_answer,
    stderr_answer h]

lemma following_after_answer (h : ∀ e ∈ events, e.warning? = none) (s : Session) (n m : Nat)
    (calls : List Call) :
    Transcript.following given (n + m) (s.after (answer lines remarks events) calls) =
      (Transcript.following (warned given remarks) m s).behind n
        (asked lines ++ events.flatMap Report.stdoutOf)
        (overheard given remarks ++ events.flatMap (Report.stderrOf false)) calls := by
  simp only [Transcript.following, Transcript.ofSession, Transcript.behind, Session.after,
    Report.stdout, List.flatMap_append, unrepeated_append, stdout_answer, stderr_answer h,
    givenAfter_answer h]

end

section

variable {w : World} {given : List Text} {c : Context} {items : List TerminalItem} {p : Part}
  {ps : List Part} {tail : List Text} {remarks : List Remark} {events : List Event}
  {calls : List Call}

lemma following_of_error {x : Ending} (hseg : Segmentation items (p :: ps) tail)
    (h : round w c p.ending = ⟨remarks.map .remark, calls, .error x⟩) :
    Transcript.following given (p.lines.length + 1) (run w c items) =
      ⟨p.lines.length + 1, asked p.lines, overheard given remarks, calls,
        (ps.flatMap Part.items ++ tail.map some).length, x⟩ := by
  rw [← List.append_nil (remarks.map Event.remark)] at h
  rw [run_of_error hseg.read_cons (congrArg Round.next h), h, ← List.append_nil (asked p.lines),
    ← List.append_nil (overheard given remarks)]
  exact following_answer (List.forall_mem_nil _) _ _ _ _

lemma following_of_ok {d : Context} {n : Nat} (hseg : Segmentation items (p :: ps) tail)
    (hplain : ∀ e ∈ events, e.warning? = none)
    (h : round w c p.ending = ⟨remarks.map .remark ++ events, calls, .ok d⟩) :
    Transcript.following given (p.lines.length + 1 + n) (run w c items) =
      (Transcript.following (warned given remarks) n
        (run w d (ps.flatMap Part.items ++ tail.map some))).behind
        (p.lines.length + 1) (asked p.lines ++ events.flatMap Report.stdoutOf)
        (overheard given remarks ++ events.flatMap (Report.stderrOf false)) calls := by
  rw [run_of_ok hseg.read_cons (congrArg Round.next h), h]
  exact following_after_answer hplain _ _ _ _

end

lemma following_tail {w : World} {given : List Text} {c : Context} {items : List TerminalItem}
    {tail : List Text} (h : Segmentation items [] tail) :
    Transcript.following given (tail.length + 1) (run w c items) =
      ⟨tail.length + 1, asked tail ++ ['\n'], [], [], 0, .status 0⟩ := by
  have hround : round w c .ended =
      ⟨([] : List Remark).map .remark ++ [newline], [], .error (.status 0)⟩ := rfl
  rw [run_of_error h.read_nil (congrArg Round.next hround), hround]
  exact following_answer (List.forall_mem_singleton.mpr rfl) _ _ _ _

lemma reported_or_ends (f : LineFault) :
    Reported f ∨ (∃ status, f = .run (.exit status)) ∨ ∃ b, f = .run (.breakdown b) := by
  match f with
  | .parse e => exact .inl (.inl ⟨e, rfl⟩)
  | .run (.failure e) => exact .inl (.inr ⟨e, rfl⟩)
  | .run (.exit status) => exact .inr (.inl ⟨status, rfl⟩)
  | .run (.breakdown b) => exact .inr (.inr ⟨b, rfl⟩)

section

variable {w : World} {c : Context} {text : Text}

lemma round_of_ok {output : Text} (ho : (execute w c text).outcome = .ok output) :
    round w c (.command text) = ⟨(execute w c text).remarks.map .remark ++ [.out output],
      (execute w c text).calls, .ok (execute w c text).context⟩ := by
  simp only [round, ho]

lemma round_of_reported {f : LineFault} (ho : (execute w c text).outcome = .error f)
    (hf : Reported f) :
    round w c (.command text) = ⟨(execute w c text).remarks.map .remark ++ [.complaint f.message],
      (execute w c text).calls, .ok (execute w c text).context⟩ := by
  obtain ⟨e, rfl⟩ | ⟨e, rfl⟩ := hf
  · simp only [round, ho]
  · simp only [round, ho]

lemma round_of_exit {status : Int}
    (ho : (execute w c text).outcome = .error (.run (.exit status))) :
    round w c (.command text) = ⟨(execute w c text).remarks.map .remark, (execute w c text).calls,
      .error (.status status)⟩ := by
  simp only [round, ho]

lemma round_of_breakdown {b : Breakdown}
    (ho : (execute w c text).outcome = .error (.run (.breakdown b))) :
    round w c (.command text) = ⟨(execute w c text).remarks.map .remark, (execute w c text).calls,
      .error (.breakdown b)⟩ := by
  simp only [round, ho]

end

lemma exists_dialogue (w : World) (given : List Text) (c : Context) {items : List TerminalItem}
    {ps : List Part} {tail : List Text} (h : Segmentation items ps tail) :
    ∃ n, Dialogue w given c ps tail (Transcript.following given n (run w c items)) := by
  induction ps generalizing given c items with
  | nil =>
    refine ⟨tail.length + 1, ?_⟩
    rw [following_tail h]
    exact .finished
  | cons p ps ih =>
    obtain ⟨lines, last⟩ := p
    cases last with
    | none =>
      obtain ⟨n, hn⟩ := ih given c h.rest
      have hround : round w c (Part.ending ⟨lines, none⟩) =
          ⟨([] : List Remark).map .remark ++ [newline], [], .ok c⟩ := rfl
      refine ⟨lines.length + 1 + n, ?_⟩
      rw [following_of_ok h (List.forall_mem_singleton.mpr rfl) hround]
      exact .interrupted hn
    | some l =>
      let r := execute w c (carried lines ++ l)
      obtain ⟨n, hn⟩ := ih (warned given r.remarks) r.context h.rest
      cases ho : r.outcome with
      | ok output =>
        refine ⟨lines.length + 1 + n, ?_⟩
        rw [following_of_ok h (List.forall_mem_singleton.mpr rfl) (round_of_ok ho),
          List.flatMap_singleton, List.flatMap_singleton, Report.stderrOf, List.append_nil]
        exact .answered rfl ho hn
      | error f =>
        obtain hf | ⟨status, rfl⟩ | ⟨b, rfl⟩ := reported_or_ends f
        · have hstdout : asked lines ++ Report.stdoutOf (.complaint f.message) = asked lines :=
            List.append_nil _
          refine ⟨lines.length + 1 + n, ?_⟩
          rw [following_of_ok h (List.forall_mem_singleton.mpr rfl) (round_of_reported ho hf),
            List.flatMap_singleton, List.flatMap_singleton, hstdout]
          exact .reported rfl ho hf hn
        · refine ⟨lines.length + 1, ?_⟩
          rw [following_of_error h (round_of_exit ho)]
          exact .left rfl ho
        · refine ⟨lines.length + 1, ?_⟩
          rw [following_of_error h (round_of_breakdown ho)]
          exact .broken rfl ho

theorem run_dialogue (w : World) (c : Context) (items : List TerminalItem) :
    ∃ ps tail, Segmentation items ps tail ∧
      (∀ qs tail', Segmentation items qs tail' → qs = ps ∧ tail' = tail) ∧
      ∃ n, (n + (run w c items).unread = items.length ∨
          n = items.length + 1 ∧ (run w c items).unread = 0) ∧
        ∀ t, Dialogue w [] c ps tail t ↔ t = Transcript.ofSession n (run w c items) := by
  obtain ⟨ps, tail, hseg⟩ := exists_segmentation items
  obtain ⟨n, hn⟩ := exists_dialogue w [] c hseg
  have hn : Dialogue w [] c ps tail (Transcript.ofSession n (run w c items)) := hn
  have hreads := hn.reads_eq
  rw [← hseg.items] at hreads
  refine ⟨ps, tail, hseg, fun qs tail' h => h.unique hseg, n, hreads, fun t => ?_⟩
  constructor
  · intro h
    exact h.unique hn
  · rintro rfl
    exact hn

end Shell

end LineShell
