import Mathlib.Data.List.Basic

/-!
# The log reader of `GetLogs` (`internal/podman`)

`Client.GetLogs` makes two channels of capacity one, `stdout` and `stderr`,
and an error channel, starts a goroutine that runs `containers.Logs` – which
sends each log line on the channel of its stream – then sends the error
`Logs` returned, if any, and closes both channels. The caller reads the lines
back through `combinedLogReader.Read`, which takes one line at a time into its
buffer with a `select` over the three channels and hands the buffer out in
pieces of the caller's size.

The goroutine and the caller run concurrently, and the only place they meet is
a channel: a send blocks while the channel's one slot is full, and the
`select` of `Read` blocks while none of its cases is ready and picks any ready
one otherwise. The model is the pair as a transition system
(`PodmanSwarm.Logs.Sys.step`): an event is a step of the goroutine, or a call
of `Read` with a buffer of `n` bytes and the case its `select` takes.

* **Nothing is lost or repeated.** `Read` sets `closed` only once both
  channels are drained and its buffer is empty, so it never drops a buffered
  tail (`PodmanSwarm.Logs.Inv.closed_buffer`). Over every run, what `Read`
  has returned is a prefix of the lines it took from the channels, each
  followed by a newline, and once it returns `io.EOF` it has returned all of
  them exactly once (`PodmanSwarm.Logs.Inv.returned_lines`).
* **The order is the reader's.** The lines of one stream come out in the
  order they were sent (with one stream only, that is the whole order:
  `PodmanSwarm.Logs.Inv.got_of_eof_one_stream`), but a line of `stderr` sent
  after a line of `stdout` may come out first: both can sit in their slots
  when `Read` chooses (`PodmanSwarm.Logs.log_lines_reordered`).
* **`io.EOF` comes.** Every step before `io.EOF` spends some of a finite
  budget (`PodmanSwarm.Logs.Sys.measure_step_lt`), and some step is always
  possible (`PodmanSwarm.Logs.Inv.exists_step`). So every run with reads of
  positive size reaches `io.EOF` within the budget, and from every reachable
  state some run does, whatever the sizes of its reads
  (`PodmanSwarm.Logs.reader_outcomes`).
-/

namespace PodmanSwarm

namespace Logs

/-- A Go string, as its bytes. -/
abbrev Bytes := List UInt8

/-- `[]byte(line + "\n")`. -/
def withNewline (line : Bytes) : Bytes := line ++ [10]

/-- The two output streams of a container. -/
inductive Stream
  | stdout
  | stderr
  deriving DecidableEq

/-- The lines of stream `st` among `ls`, in order. -/
def linesOn (st : Stream) (ls : List (Stream × Bytes)) : List Bytes := (ls.filter (·.1 = st)).map Prod.snd

@[simp] theorem linesOn_nil (st : Stream) : linesOn st [] = [] := rfl

@[simp] theorem linesOn_cons_self (st : Stream) (b : Bytes) (ls : List (Stream × Bytes)) :
    linesOn st ((st, b) :: ls) = b :: linesOn st ls := by
  simp [linesOn]

@[simp] theorem linesOn_cons_of_ne {st st' : Stream} (h : st' ≠ st) (b : Bytes) (ls : List (Stream × Bytes)) :
    linesOn st ((st', b) :: ls) = linesOn st ls := by
  simp [linesOn, h]

@[simp] theorem linesOn_append (st : Stream) (ls ls' : List (Stream × Bytes)) :
    linesOn st (ls ++ ls') = linesOn st ls ++ linesOn st ls' := by
  simp [linesOn]

/-- A channel of capacity one (`make(chan string, 1)`): the line in its slot,
and whether it was closed. -/
structure Chan where
  buf : Option Bytes
  closed : Bool
  deriving DecidableEq

/-- A receive: the line in the slot, or `(_, false)` from a drained closed
channel; `none` while the channel is empty and open, where the receive
blocks. -/
def Chan.recv : Chan → Option (Option Bytes × Chan)
  | ⟨some l, c⟩ => some (some l, ⟨none, c⟩)
  | ⟨none, true⟩ => some (none, ⟨none, true⟩)
  | ⟨none, false⟩ => none

/-- A send; `none` while the slot is full, where the send blocks. -/
def Chan.send (l : Bytes) : Chan → Option Chan
  | ⟨none, c⟩ => some ⟨some l, c⟩
  | ⟨some _, _⟩ => none

/-- The three channels `GetLogs` makes; `errChan` is never closed. -/
structure Chans where
  stdout : Chan
  stderr : Chan
  errChan : Option String
  deriving DecidableEq

/-- The channel of a stream. -/
def Chans.get (ch : Chans) : Stream → Chan
  | .stdout => ch.stdout
  | .stderr => ch.stderr

/-- The channels with the one of `st` replaced. -/
def Chans.set (ch : Chans) : Stream → Chan → Chans
  | .stdout, c => { ch with stdout := c }
  | .stderr, c => { ch with stderr := c }

@[simp] theorem Chans.get_set_self (ch : Chans) (st : Stream) (c : Chan) : (ch.set st c).get st = c := by
  cases st <;> rfl

@[simp] theorem Chans.get_set_of_ne (ch : Chans) {st st' : Stream} (h : st' ≠ st) (c : Chan) :
    (ch.set st c).get st' = ch.get st' := by
  cases st <;> cases st' <;> first | rfl | exact absurd rfl h

@[simp] theorem Chans.set_get_self (ch : Chans) (st : Stream) : ch.set st (ch.get st) = ch := by
  cases st <;> rfl

/-- Refilling or emptying a slot does not open or close its channel. -/
@[simp] theorem Chans.closed_get_set (ch : Chans) (st st' : Stream) (b : Option Bytes) :
    ((ch.set st ⟨b, (ch.get st).closed⟩).get st').closed = (ch.get st').closed := by
  cases st <;> cases st' <;> rfl

@[simp] theorem Chans.get_errChan (ch : Chans) (st : Stream) (e : Option String) :
    ({ ch with errChan := e } : Chans).get st = ch.get st := by
  cases st <;> rfl

@[simp] theorem Chans.errChan_set (ch : Chans) (st : Stream) (c : Chan) : (ch.set st c).errChan = ch.errChan := by
  cases st <;> rfl

/-- `combinedLogReader`: whether its fields `stdout` and `stderr` still hold
their channels (`Read` sets one to nil once its channel is drained and
closed), its buffer, and `closed`. -/
structure Reader where
  stdout : Bool
  stderr : Bool
  buffer : Bytes
  closed : Bool
  deriving DecidableEq

/-- Whether the field of stream `st` still holds its channel. -/
def Reader.attached (r : Reader) : Stream → Bool
  | .stdout => r.stdout
  | .stderr => r.stderr

/-- `r.stdout = nil`, or `r.stderr = nil`. -/
def Reader.detach (r : Reader) : Stream → Reader
  | .stdout => { r with stdout := false }
  | .stderr => { r with stderr := false }

@[simp] theorem Reader.attached_detach_self (r : Reader) (st : Stream) : (r.detach st).attached st = false := by
  cases st <;> rfl

@[simp] theorem Reader.attached_detach_of_ne (r : Reader) {st st' : Stream} (h : st' ≠ st) :
    (r.detach st).attached st' = r.attached st' := by
  cases st <;> cases st' <;> first | rfl | exact absurd rfl h

@[simp] theorem Reader.attached_with_buffer (r : Reader) (b : Bytes) (st : Stream) :
    ({ r with buffer := b } : Reader).attached st = r.attached st := by
  cases st <;> rfl

@[simp] theorem Reader.attached_with_closed (r : Reader) (c : Bool) (st : Stream) :
    ({ r with closed := c } : Reader).attached st = r.attached st := by
  cases st <;> rfl

/-- A reader that still holds one channel is not done with both. -/
theorem Reader.not_both_detached {r : Reader} {st : Stream} (h : r.attached st = true) :
    (!r.stdout && !r.stderr) = false := by
  cases st <;> simp only [Reader.attached] at h <;> simp [h]

@[simp] theorem Reader.buffer_detach (r : Reader) (st : Stream) : (r.detach st).buffer = r.buffer := by
  cases st <;> rfl

@[simp] theorem Reader.closed_detach (r : Reader) (st : Stream) : (r.detach st).closed = r.closed := by
  cases st <;> rfl

/-- What `Read` returns: `n` bytes and a nil error, `io.EOF`, or the error
taken from `errChan`. -/
inductive Result
  | bytes (b : Bytes)
  | eof
  | error (e : String)
  deriving DecidableEq

/-- The bytes a result hands the caller. -/
@[simp] def Result.bytesOf : Result → Bytes
  | .bytes b => b
  | _ => []

/-- Whether a result is `io.EOF`. -/
@[simp] def Result.isEof : Result → Bool
  | .eof => true
  | _ => false

/-- The case `Read`'s `select` takes. -/
inductive Case
  | recv (st : Stream)
  | err
  deriving DecidableEq

/-- `n = copy(p, r.buffer); r.buffer = r.buffer[n:]`, for `len(p) = n`. -/
def Reader.copyOut (n : Nat) (r : Reader) : Reader × Result :=
  ({ r with buffer := r.buffer.drop n }, .bytes (r.buffer.take n))

/-- The `select` of `Read`, taking case `c`: `none` when that case is not
ready (a nil channel never is); otherwise the reader and channels after the
receive, and the error received from `errChan`, if that was the case. -/
def select (c : Case) (r : Reader) (ch : Chans) : Option (Reader × Chans × Option String) :=
  match c with
  | .recv st =>
    if r.attached st then
      (ch.get st).recv.map fun
        | (some line, c) => ({ r with buffer := r.buffer ++ withNewline line }, ch.set st c, none)
        | (none, c) => (r.detach st, ch.set st c, none)
    else none
  | .err => ch.errChan.map fun e => (r, { ch with errChan := none }, some e)

/-- `combinedLogReader.Read(p)` with `len(p) = n`, its `select` taking case
`c`; `none` when that case is not ready, where the call blocks. -/
def read (n : Nat) (c : Case) (r : Reader) (ch : Chans) : Option (Reader × Chans × Result) :=
  if r.closed then some (r, ch, .eof)
  else if r.buffer = [] then
    (select c r ch).map fun (r, ch, e) =>
      match e with
      | some err => (r, ch, .error err)
      | none =>
        if !r.stdout && !r.stderr then
          if r.buffer = [] then ({ r with closed := true }, ch, .eof)
          else
            let (r, res) := { r with closed := true }.copyOut n
            (r, ch, res)
        else
          let (r, res) := r.copyOut n
          (r, ch, res)
  else
    let (r, res) := r.copyOut n
    some (r, ch, res)

/-- Where the goroutine of `GetLogs` is: in `containers.Logs` with `rest` still
to send and `err` the error `Logs` will return, about to close `stdout`, about
to close `stderr`, or finished. -/
inductive Goroutine
  | logs (rest : List (Stream × Bytes)) (err : Option String)
  | closeStdout
  | closeStderr
  | exited

/-- One step of the goroutine; `none` while it is blocked on a full slot, and
once it has exited. -/
def Goroutine.step : Goroutine → Chans → Option (Goroutine × Chans)
  | .logs ((st, line) :: rest) err, ch => ((ch.get st).send line).map fun c => (.logs rest err, ch.set st c)
  | .logs [] (some e), ch =>
    match ch.errChan with
    | none => some (.closeStdout, { ch with errChan := some e })
    | some _ => none
  | .logs [] none, ch => some (.closeStdout, ch)
  | .closeStdout, ch => some (.closeStderr, ch.set .stdout { ch.stdout with closed := true })
  | .closeStderr, ch => some (.exited, ch.set .stderr { ch.stderr with closed := true })
  | .exited, _ => none

/-- The lines of stream `st` the goroutine has still to send. -/
def Goroutine.pending (st : Stream) : Goroutine → List Bytes
  | .logs rest _ => linesOn st rest
  | _ => []

/-- Whether the goroutine has closed the channel of a stream. -/
def Goroutine.hasClosed : Goroutine → Stream → Bool
  | .closeStderr, .stdout => true
  | .exited, _ => true
  | _, _ => false

/-- The goroutine, the channels and the reader, with what the caller has
seen: the bytes `Read` returned, in order, and whether it returned
`io.EOF`. -/
structure Sys where
  goroutine : Goroutine
  chans : Chans
  reader : Reader
  got : Bytes
  eof : Bool

/-- What happens next: the goroutine steps, or the caller calls `Read` with
a buffer of `n` bytes and its `select` takes case `c`. -/
inductive Event
  | produce
  | read (n : Nat) (c : Case)

/-- One event; `none` when it cannot happen now. -/
def Sys.step : Event → Sys → Option Sys
  | .produce, s => (s.goroutine.step s.chans).map fun (g, ch) => { s with goroutine := g, chans := ch }
  | .read n c, s => (read n c s.reader s.chans).map fun (r, ch, res) =>
      { s with reader := r, chans := ch, got := s.got ++ res.bytesOf, eof := s.eof || res.isEof }

/-- Events in order; `none` at the first that cannot happen. -/
def run : List Event → Sys → Option Sys
  | [], s => some s
  | e :: es, s => (s.step e).bind (run es)

/-- Right after `GetLogs` returns: the goroutine is to send `lines` and then
report `err`, the channels are empty and open, the reader holds both. -/
def init (lines : List (Stream × Bytes)) (err : Option String) : Sys :=
  ⟨.logs lines err, ⟨⟨none, false⟩, ⟨none, false⟩, none⟩, ⟨true, true, [], false⟩, [], false⟩

/-! ### What one step of the goroutine does -/

theorem Goroutine.step_cases {g g' : Goroutine} {ch ch' : Chans} (h : g.step ch = some (g', ch')) :
    (∃ st line rest err, g = .logs ((st, line) :: rest) err ∧ (ch.get st).buf = none ∧ g' = .logs rest err ∧
      ch' = ch.set st ⟨some line, (ch.get st).closed⟩) ∨
    (∃ e, g = .logs [] (some e) ∧ ch.errChan = none ∧ g' = .closeStdout ∧ ch' = { ch with errChan := some e }) ∨
    (g = .logs [] none ∧ g' = .closeStdout ∧ ch' = ch) ∨
    (g = .closeStdout ∧ g' = .closeStderr ∧ ch' = ch.set .stdout { ch.stdout with closed := true }) ∨
    (g = .closeStderr ∧ g' = .exited ∧ ch' = ch.set .stderr { ch.stderr with closed := true }) := by
  match g, h with
  | .logs ((st, line) :: rest) err, h =>
    obtain ⟨c, hc, hx⟩ := Option.map_eq_some'.mp h
    cases hx
    rcases hg : ch.get st with ⟨_ | l, closed⟩ <;> rw [hg] at hc <;> cases hc
    exact .inl ⟨st, line, rest, err, rfl, by rw [hg], rfl, by rw [hg]⟩
  | .logs [] (some e), h =>
    simp only [step] at h
    split at h
    · next he => cases h; exact .inr (.inl ⟨e, rfl, he, rfl, rfl⟩)
    · cases h
  | .logs [] none, h => cases h; exact .inr (.inr (.inl ⟨rfl, rfl, rfl⟩))
  | .closeStdout, h => cases h; exact .inr (.inr (.inr (.inl ⟨rfl, rfl, rfl⟩)))
  | .closeStderr, h => cases h; exact .inr (.inr (.inr (.inr ⟨rfl, rfl, rfl⟩)))

/-! ### What one call of `Read` does -/

theorem select_cases {c : Case} {r r' : Reader} {ch ch' : Chans} {e : Option String}
    (h : select c r ch = some (r', ch', e)) :
    (∃ err, c = .err ∧ ch.errChan = some err ∧ r' = r ∧ ch' = { ch with errChan := none } ∧ e = some err) ∨
    (∃ st l, c = .recv st ∧ r.attached st = true ∧ (ch.get st).buf = some l ∧
      ch' = ch.set st ⟨none, (ch.get st).closed⟩ ∧ r' = { r with buffer := r.buffer ++ withNewline l } ∧ e = none) ∨
    (∃ st, c = .recv st ∧ r.attached st = true ∧ ch.get st = ⟨none, true⟩ ∧ ch' = ch ∧ r' = r.detach st ∧
      e = none) := by
  cases c with
  | err =>
    obtain ⟨err, he, hx⟩ := Option.map_eq_some'.mp h
    cases hx
    exact .inl ⟨err, rfl, he, rfl, rfl, rfl⟩
  | recv st =>
    simp only [select] at h
    split_ifs at h with ha
    obtain ⟨⟨x, c'⟩, hx, hf⟩ := Option.map_eq_some'.mp h
    rcases hc : ch.get st with ⟨_ | l, closed⟩ <;> rw [hc] at hx
    · cases closed
      · cases hx
      · cases hx
        cases hf
        exact .inr (.inr ⟨st, rfl, ha, hc, by rw [← hc, Chans.set_get_self], rfl, rfl⟩)
    · cases hx
      cases hf
      exact .inr (.inl ⟨st, l, rfl, ha, by rw [hc], by rw [hc], rfl, rfl⟩)

theorem read_cases {n : Nat} {c : Case} {r r' : Reader} {ch ch' : Chans} {res : Result}
    (h : read n c r ch = some (r', ch', res)) :
    (r.closed = true ∧ r' = r ∧ ch' = ch ∧ res = .eof) ∨
    (r.closed = false ∧ r.buffer ≠ [] ∧ (r', res) = r.copyOut n ∧ ch' = ch) ∨
    (r.closed = false ∧ r.buffer = [] ∧ ∃ e, c = .err ∧ ch.errChan = some e ∧ r' = r ∧
      ch' = { ch with errChan := none } ∧ res = .error e) ∨
    (r.closed = false ∧ r.buffer = [] ∧ ∃ st l, c = .recv st ∧ r.attached st = true ∧
      (ch.get st).buf = some l ∧ ch' = ch.set st ⟨none, (ch.get st).closed⟩ ∧
      (r', res) = { r with buffer := withNewline l }.copyOut n) ∨
    (r.closed = false ∧ r.buffer = [] ∧ ∃ st, c = .recv st ∧ r.attached st = true ∧
      ch.get st = ⟨none, true⟩ ∧ ch' = ch ∧
      if (r.detach st).stdout || (r.detach st).stderr then (r', res) = (r.detach st).copyOut n
      else r' = { r.detach st with closed := true } ∧ res = .eof) := by
  unfold read at h
  by_cases hc : r.closed = true
  · rw [if_pos hc] at h
    cases h
    exact .inl ⟨hc, rfl, rfl, rfl⟩
  rw [if_neg hc] at h
  by_cases hb : r.buffer = []
  swap
  · rw [if_neg hb] at h
    cases h
    exact .inr (.inl ⟨by simpa using hc, hb, rfl, rfl⟩)
  rw [if_pos hb] at h
  · obtain ⟨⟨r₁, ch₁, e⟩, hs, hf⟩ := Option.map_eq_some'.mp h
    rw [Bool.not_eq_true] at hc
    rcases select_cases hs with ⟨err, rfl, he, rfl, rfl, rfl⟩ | ⟨st, l, rfl, ha, hl, rfl, rfl, rfl⟩ |
      ⟨st, rfl, ha, hch, rfl, rfl, rfl⟩
    · cases hf
      exact .inr (.inr (.inl ⟨hc, hb, err, rfl, he, rfl, rfl, rfl⟩))
    · simp only [Reader.not_both_detached ha, Bool.false_eq_true, if_false, hb, List.nil_append, Prod.mk.injEq] at hf
      obtain ⟨rfl, rfl, rfl⟩ := hf
      exact .inr (.inr (.inr (.inl ⟨hc, hb, st, l, rfl, ha, hl, rfl, rfl⟩)))
    · simp only [Reader.buffer_detach, hb, if_true, ← Bool.not_or, Bool.not_eq_true'] at hf
      refine .inr (.inr (.inr (.inr ⟨hc, hb, st, rfl, ha, hch, ?_⟩)))
      cases hd : ((r.detach st).stdout || (r.detach st).stderr) <;>
        simp only [hd, if_true, if_false, Bool.false_eq_true, Prod.mk.injEq] at hf ⊢
      · obtain ⟨rfl, rfl, rfl⟩ := hf
        exact ⟨rfl, by rw [Reader.buffer_detach, hb], rfl⟩
      · obtain ⟨rfl, rfl, rfl⟩ := hf
        exact ⟨rfl, rfl⟩

/-! ### The invariant -/

/-- What holds of every state a run from `init lines err` reaches. -/
structure Inv (lines : List (Stream × Bytes)) (s : Sys) : Prop where
  /-- There are the lines the reader took from the channels, in the order it
  took them: what `Read` returned and then the buffer are these lines, each
  with its newline, and per stream they are followed by the line in the slot
  and by the lines still to send. -/
  taken : ∃ taken : List (Stream × Bytes), s.got ++ s.reader.buffer = (taken.map fun x => withNewline x.2).flatten ∧
    ∀ st, linesOn st taken ++ (s.chans.get st).buf.toList ++ s.goroutine.pending st = linesOn st lines
  chan_closed : ∀ st, (s.chans.get st).closed = s.goroutine.hasClosed st
  /-- A field `Read` set to nil belongs to a closed, drained channel. -/
  detached : ∀ st, s.reader.attached st = false → s.goroutine.hasClosed st = true ∧ (s.chans.get st).buf = none
  reader_closed : s.reader.closed = true ↔ s.reader.stdout = false ∧ s.reader.stderr = false
  /-- `closed` is never set over a buffered tail. -/
  closed_buffer : s.reader.closed = true → s.reader.buffer = []
  eof_closed : s.eof = true → s.reader.closed = true
  errChan_logs : ∀ rest err, s.goroutine = .logs rest err → s.chans.errChan = none

theorem Inv.init (lines : List (Stream × Bytes)) (err : Option String) : Inv lines (init lines err) where
  taken := ⟨[], rfl, fun st => by cases st <;> rfl⟩
  chan_closed st := by cases st <;> rfl
  detached st h := by cases st <;> cases h
  reader_closed := ⟨nofun, fun h => nomatch h.1⟩
  closed_buffer h := by cases h
  eof_closed h := by cases h
  errChan_logs _ _ _ := rfl

/-- While the goroutine is in `Logs`, the reader holds both channels. -/
theorem Inv.attached_of_logs {lines : List (Stream × Bytes)} {s : Sys} (hi : Inv lines s) {rest err}
    (hg : s.goroutine = .logs rest err) (st : Stream) : s.reader.attached st = true := by
  by_contra hn
  have := (hi.detached st (by simpa using hn)).1
  rw [hg] at this
  cases st <;> cases this

theorem Inv.produce {lines : List (Stream × Bytes)} {s : Sys} {g : Goroutine} {ch : Chans} (hi : Inv lines s)
    (h : s.goroutine.step s.chans = some (g, ch)) : Inv lines { s with goroutine := g, chans := ch } := by
  obtain ⟨taken, hgot, hlines⟩ := hi.taken
  rcases Goroutine.step_cases h with ⟨st, line, rest, err, hg, hb, rfl, rfl⟩ | ⟨e, hg, he, rfl, rfl⟩ |
    ⟨hg, rfl, rfl⟩ | ⟨hg, rfl, rfl⟩ | ⟨hg, rfl, rfl⟩
  · have hatt := hi.attached_of_logs hg
    refine ⟨⟨taken, hgot, fun st' => ?_⟩, fun st' => by simpa [hg, Goroutine.hasClosed] using hi.chan_closed st',
      fun st' h' => absurd (hatt st') (by simpa using h'), hi.reader_closed, hi.closed_buffer, hi.eof_closed,
      fun _ _ _ => by simpa using hi.errChan_logs _ _ hg⟩
    have := hlines st'
    rw [hg] at this
    by_cases hst : st' = st
    · subst hst
      simpa [Goroutine.pending, hb] using this
    · simpa [Goroutine.pending, hst, Ne.symm hst] using this
  all_goals
    have htaken : ∀ st, linesOn st taken ++ ((s.chans.get st).buf.toList ++ s.goroutine.pending st) = linesOn st lines :=
      fun st => by simpa using hlines st
    have hclosed := hi.chan_closed
    rw [hg] at htaken hclosed
  iterate 2
    exact ⟨⟨taken, hgot, fun st' => by simpa [Goroutine.pending] using htaken st'⟩,
      fun st' => by have := hclosed st'; cases st' <;> simpa [Goroutine.hasClosed] using this,
      fun st' h' => absurd (hi.attached_of_logs hg st') (by simpa using h'), hi.reader_closed, hi.closed_buffer,
      hi.eof_closed, fun _ _ h => nomatch h⟩
  · refine ⟨⟨taken, hgot, fun st' => by have := htaken st'; cases st' <;> simpa [Goroutine.pending, Chans.get, Chans.set] using this⟩,
      fun st' => by cases st'; exacts [rfl, hclosed .stderr],
      fun st' h' => ?_, hi.reader_closed, hi.closed_buffer, hi.eof_closed, fun _ _ h => nomatch h⟩
    have := (hi.detached st' h').1
    rw [hg] at this
    cases st' <;> cases this
  · refine ⟨⟨taken, hgot, fun st' => by have := htaken st'; cases st' <;> simpa [Goroutine.pending, Chans.get, Chans.set] using this⟩,
      fun st' => by cases st'; exacts [hclosed .stdout, rfl],
      fun st' h' => ?_, hi.reader_closed, hi.closed_buffer, hi.eof_closed, fun _ _ h => nomatch h⟩
    have := hi.detached st' h'
    rw [hg] at this
    cases st'
    · exact ⟨rfl, this.2⟩
    · cases this.1

theorem Inv.read {lines : List (Stream × Bytes)} {s : Sys} {n : Nat} {c : Case} {r : Reader} {ch : Chans}
    {res : Result} (hi : Inv lines s) (h : read n c s.reader s.chans = some (r, ch, res)) :
    Inv lines { s with reader := r, chans := ch, got := s.got ++ res.bytesOf, eof := s.eof || res.isEof } := by
  obtain ⟨taken, hgot, hlines⟩ := hi.taken
  rcases read_cases h with ⟨hc, rfl, rfl, rfl⟩ | ⟨hc, hb, hr, rfl⟩ | ⟨hc, hb, e, -, he, rfl, rfl, rfl⟩ |
    ⟨hc, hb, st, l, -, ha, hl, rfl, hr⟩ | ⟨hc, hb, st, -, ha, hch, rfl, hr⟩
  · exact ⟨⟨taken, by simpa [Result.bytesOf] using hgot, hlines⟩, hi.chan_closed, hi.detached, hi.reader_closed,
      hi.closed_buffer, fun _ => hc, hi.errChan_logs⟩
  · simp only [Reader.copyOut, Prod.mk.injEq] at hr
    obtain ⟨rfl, rfl⟩ := hr
    exact ⟨⟨taken, by simpa [Result.bytesOf] using hgot, hlines⟩, hi.chan_closed, hi.detached, hi.reader_closed,
      fun h' => absurd h' (by simp [hc]), fun h' => hi.eof_closed (by simpa using h'), hi.errChan_logs⟩
  · exact ⟨⟨taken, by simpa [Result.bytesOf] using hgot, fun st => by simpa using hlines st⟩,
      fun st => by simpa using hi.chan_closed st, fun st h' => by simpa using hi.detached st h', hi.reader_closed,
      hi.closed_buffer, fun h' => hi.eof_closed (by simpa using h'), fun _ _ _ => rfl⟩
  · simp only [Reader.copyOut, Prod.mk.injEq] at hr
    obtain ⟨rfl, rfl⟩ := hr
    refine ⟨⟨taken ++ [(st, l)], ?_, fun st' => ?_⟩, fun st' => by simpa using hi.chan_closed st', fun st' h' => ?_,
      hi.reader_closed,
      fun h' => absurd h' (by simp [hc]), fun h' => hi.eof_closed (by simpa using h'),
      fun rest err hg => by simpa using hi.errChan_logs rest err hg⟩
    · simp [Result.bytesOf, ← hgot, hb]
    · by_cases hst : st' = st
      · subst hst
        simpa [hl] using hlines st'
      · simpa [hst, Ne.symm hst] using hlines st'
    · have hst : st' ≠ st := by
        rintro rfl
        simp [ha] at h'
      simpa [hst] using hi.detached st' (by simpa using h')
  · have hdet : ∀ st', (s.reader.detach st).attached st' = false →
        s.goroutine.hasClosed st' = true ∧ (s.chans.get st').buf = none := fun st' h' => by
      by_cases hst : st' = st
      · subst hst
        exact ⟨(hi.chan_closed st').symm.trans (by rw [hch]), by rw [hch]⟩
      · exact hi.detached st' (by simpa [hst] using h')
    rw [hb, List.append_nil] at hgot
    split_ifs at hr with hd
    · simp only [Reader.copyOut, Prod.mk.injEq] at hr
      obtain ⟨rfl, rfl⟩ := hr
      refine ⟨⟨taken, by simpa [Result.bytesOf, hb] using hgot, hlines⟩, hi.chan_closed,
        fun st' h' => hdet st' (by simpa using h'), ⟨fun h' => absurd h' (by simp [hc]), fun h' => ?_⟩,
        fun h' => absurd h' (by simp [hc]), fun h' => absurd (hi.eof_closed (by simpa using h')) (by simp [hc]),
        hi.errChan_logs⟩
      have h₁ : (s.reader.detach st).stdout = false := h'.1
      have h₂ : (s.reader.detach st).stderr = false := h'.2
      simp [h₁, h₂] at hd
    · obtain ⟨rfl, rfl⟩ := hr
      simp only [Bool.not_eq_true, Bool.or_eq_false_iff] at hd
      exact ⟨⟨taken, by simpa [Result.bytesOf, hb] using hgot, hlines⟩, hi.chan_closed,
        fun st' h' => hdet st' (by simpa using h'), ⟨fun _ => hd, fun _ => rfl⟩, fun _ => by simp [hb],
        fun _ => rfl, hi.errChan_logs⟩

theorem Inv.step {lines : List (Stream × Bytes)} {s s' : Sys} {e : Event} (hi : Inv lines s)
    (h : s.step e = some s') : Inv lines s' := by
  cases e with
  | produce =>
    obtain ⟨⟨g, ch⟩, hg, rfl⟩ := Option.map_eq_some'.mp h
    exact hi.produce hg
  | read n c =>
    obtain ⟨⟨r, ch, res⟩, hr, rfl⟩ := Option.map_eq_some'.mp h
    exact hi.read hr

/-- **The invariant holds along every run.** -/
theorem Inv.run {lines : List (Stream × Bytes)} :
    ∀ {evs : List Event} {s s' : Sys}, Inv lines s → run evs s = some s' → Inv lines s'
  | [], _, _, hi, h => by cases h; exact hi
  | _ :: _, _, _, hi, h => by
    obtain ⟨s₁, h₁, h₂⟩ := Option.bind_eq_some.mp h
    exact (hi.step h₁).run h₂

/-! ### What the caller gets -/

theorem Goroutine.pending_of_hasClosed {g : Goroutine} {st : Stream} (h : g.hasClosed st = true) :
    g.pending st = [] := by
  cases g with
  | logs => cases st <;> cases h
  | _ => rfl

/-- **What `Read` returned is a prefix of the lines it took**, and the lines
it took are, per stream, a prefix of what was sent. -/
theorem Inv.returned_lines {lines : List (Stream × Bytes)} {s : Sys} (hi : Inv lines s) :
    ∃ taken : List (Stream × Bytes), (∀ st, linesOn st taken <+: linesOn st lines) ∧
      s.got <+: (taken.map fun x => withNewline x.2).flatten ∧
      (s.eof = true → (∀ st, linesOn st taken = linesOn st lines) ∧ s.got = (taken.map fun x => withNewline x.2).flatten) := by
  obtain ⟨taken, hgot, hlines⟩ := hi.taken
  refine ⟨taken, fun st => ⟨_, (List.append_assoc _ _ _).symm.trans (hlines st)⟩, ⟨_, hgot⟩, fun he => ?_⟩
  have hc := hi.eof_closed he
  have hb := hi.closed_buffer hc
  have hdet : ∀ st, s.reader.attached st = false := fun st => by
    cases st
    exacts [(hi.reader_closed.mp hc).1, (hi.reader_closed.mp hc).2]
  refine ⟨fun st => ?_, by simpa [hb] using hgot⟩
  obtain ⟨hclosed, hbuf⟩ := hi.detached st (hdet st)
  simpa [hbuf, Goroutine.pending_of_hasClosed hclosed] using hlines st

/-! ### `io.EOF` comes -/

/-- A line in a slot: its bytes, its newline, and the receive that takes
it. -/
def Chan.weight : Chan → Nat
  | ⟨some l, _⟩ => l.length + 2
  | ⟨none, _⟩ => 0

/-- The lines in the slots and the error in `errChan`. -/
def Chans.weight (ch : Chans) : Nat := ch.stdout.weight + ch.stderr.weight + ch.errChan.toList.length

/-- Per line still to send: its bytes and three more. -/
def linesWeight : List (Stream × Bytes) → Nat
  | [] => 0
  | x :: xs => x.2.length + 3 + linesWeight xs

/-- The goroutine's work left: the lines to send, the error, the two
closes. -/
def Goroutine.weight : Goroutine → Nat
  | .logs rest err => linesWeight rest + err.toList.length + 3
  | .closeStdout => 2
  | .closeStderr => 1
  | .exited => 0

/-- The buffer and the channels the reader still holds. -/
def Reader.weight (r : Reader) : Nat := r.buffer.length + r.stdout.toNat + r.stderr.toNat

/-- **What is left before `io.EOF`**: every step before it spends some. -/
def Sys.measure (s : Sys) : Nat := s.goroutine.weight + s.chans.weight + s.reader.weight + (!s.eof).toNat

theorem Chans.weight_set (ch : Chans) (st : Stream) (c : Chan) :
    (ch.set st c).weight + (ch.get st).weight = ch.weight + c.weight := by
  cases st <;> simp only [Chans.weight, Chans.set, Chans.get] <;> omega

@[simp] theorem Chan.weight_with_closed (c : Chan) (b : Bool) : ({ c with closed := b } : Chan).weight = c.weight := by
  rcases c with ⟨_ | _, _⟩ <;> rfl

theorem Reader.weight_detach {r : Reader} {st : Stream} (h : r.attached st = true) :
    (r.detach st).weight + 1 = r.weight := by
  cases st <;> simp_all [Reader.weight, Reader.detach, Reader.attached, Nat.add_right_comm]

theorem Chan.weight_of_buf_none {c : Chan} (h : c.buf = none) : c.weight = 0 := by
  rcases c with ⟨_ | _, _⟩
  · rfl
  · cases h

theorem Sys.measure_produce_lt {s : Sys} {g : Goroutine} {ch : Chans} (h : s.goroutine.step s.chans = some (g, ch)) :
    ({ s with goroutine := g, chans := ch } : Sys).measure < s.measure := by
  rcases Goroutine.step_cases h with ⟨st, line, rest, err, hg, hb, rfl, rfl⟩ | ⟨e, hg, he, rfl, rfl⟩ |
    ⟨hg, rfl, rfl⟩ | ⟨hg, rfl, rfl⟩ | ⟨hg, rfl, rfl⟩
  · have := Chans.weight_set s.chans st ⟨some line, (s.chans.get st).closed⟩
    rw [Chan.weight_of_buf_none hb] at this
    simp only [Sys.measure, hg, Goroutine.weight, linesWeight, Chan.weight] at this ⊢
    omega
  · simp only [Sys.measure, hg, Goroutine.weight, Chans.weight, he]
    simp
    omega
  · simp only [Sys.measure, hg, Goroutine.weight]
    simp
  · have := Chans.weight_set s.chans .stdout { s.chans.stdout with closed := true }
    simp only [Sys.measure, hg, Goroutine.weight, Chan.weight_with_closed, Chans.get] at this ⊢
    omega
  · have := Chans.weight_set s.chans .stderr { s.chans.stderr with closed := true }
    simp only [Sys.measure, hg, Goroutine.weight, Chan.weight_with_closed, Chans.get] at this ⊢
    omega

theorem Chan.weight_of_buf_some {c : Chan} {l : Bytes} (h : c.buf = some l) : c.weight = l.length + 2 := by
  rcases c with ⟨_ | _, _⟩
  · cases h
  · cases h; rfl

theorem Sys.measure_read_lt {s : Sys} {n : Nat} {c : Case} {r : Reader} {ch : Chans} {res : Result}
    (he : s.eof = false) (hn : 0 < n) (h : read n c s.reader s.chans = some (r, ch, res)) :
    ({ s with reader := r, chans := ch, got := s.got ++ res.bytesOf, eof := s.eof || res.isEof } : Sys).measure <
      s.measure := by
  rcases read_cases h with ⟨hc, rfl, rfl, rfl⟩ | ⟨hc, hb, hr, rfl⟩ | ⟨hc, hb, e, -, he', rfl, rfl, rfl⟩ |
    ⟨hc, hb, st, l, -, ha, hl, rfl, hr⟩ | ⟨hc, hb, st, -, ha, hch, rfl, hr⟩
  · simp [Sys.measure, he]
  · simp only [Reader.copyOut, Prod.mk.injEq] at hr
    obtain ⟨rfl, rfl⟩ := hr
    have : 0 < s.reader.buffer.length := List.length_pos.mpr hb
    simp [Sys.measure, Reader.weight, he, Result.bytesOf]
    omega
  · simp [Sys.measure, Chans.weight, he', he, Result.bytesOf]
  · simp only [Reader.copyOut, Prod.mk.injEq] at hr
    obtain ⟨rfl, rfl⟩ := hr
    have := Chans.weight_set s.chans st ⟨none, (s.chans.get st).closed⟩
    rw [Chan.weight_of_buf_some hl] at this
    simp [Sys.measure, Reader.weight, he, hb, withNewline, Chan.weight] at this ⊢
    omega
  · have hw := Reader.weight_detach ha
    split_ifs at hr with hd
    · simp only [Reader.copyOut, Prod.mk.injEq] at hr
      obtain ⟨rfl, rfl⟩ := hr
      simp [Sys.measure, Reader.weight, he, hb] at hw ⊢
      omega
    · obtain ⟨rfl, rfl⟩ := hr
      simp [Sys.measure, Reader.weight, he, hb] at hw ⊢
      omega

/-- **Every step before `io.EOF` spends some of the measure**, provided the
reads are of positive size. -/
theorem Sys.measure_step_lt {s s' : Sys} {e : Event} (he : s.eof = false) (hn : ∀ n c, e = .read n c → 0 < n)
    (h : s.step e = some s') : s'.measure < s.measure := by
  cases e with
  | produce =>
    obtain ⟨⟨g, ch⟩, hg, rfl⟩ := Option.map_eq_some'.mp h
    exact Sys.measure_produce_lt hg
  | read n c =>
    obtain ⟨⟨r, ch, res⟩, hr, rfl⟩ := Option.map_eq_some'.mp h
    exact Sys.measure_read_lt he (hn n c rfl) hr

/-- Once `Read` has returned `io.EOF`, the caller has seen it for good. -/
theorem eof_run : ∀ {evs : List Event} {s s' : Sys}, s.eof = true → run evs s = some s' → s'.eof = true
  | [], _, _, he, h => by cases h; exact he
  | e :: _, _, _, he, h => by
    obtain ⟨s₁, h₁, h₂⟩ := Option.bind_eq_some.mp h
    refine eof_run ?_ h₂
    cases e with
    | produce =>
      obtain ⟨_, -, rfl⟩ := Option.map_eq_some'.mp h₁
      exact he
    | read =>
      obtain ⟨_, -, rfl⟩ := Option.map_eq_some'.mp h₁
      simp [he]

/-- The sizes of the reads among `evs`, in order. -/
def readSizes : List Event → List Nat :=
  List.filterMap fun
    | .read n _ => some n
    | .produce => none

@[simp] theorem readSizes_nil : readSizes [] = [] := rfl

@[simp] theorem readSizes_produce (es : List Event) : readSizes (.produce :: es) = readSizes es := rfl

@[simp] theorem readSizes_read (n : Nat) (c : Case) (es : List Event) :
    readSizes (.read n c :: es) = n :: readSizes es := rfl

/-- **A run of positive reads longer than the measure has seen `io.EOF`.** -/
theorem eof_of_measure_lt_length :
    ∀ (evs : List Event) {s s' : Sys}, run evs s = some s' → (∀ n ∈ readSizes evs, 0 < n) →
      s.measure < evs.length → s'.eof = true
  | [], _, _, _, _, hl => absurd hl (Nat.not_lt_zero _)
  | e :: es, s, _, h, hn, hl => by
    obtain ⟨s₁, h₁, h₂⟩ := Option.bind_eq_some.mp h
    cases he : s.eof
    · have hpos : ∀ n c, e = .read n c → 0 < n := fun n c he' => hn n (by simp [he'])
      have hn' : ∀ n ∈ readSizes es, 0 < n := fun n hm => hn n (by cases e <;> simp [hm])
      have := Sys.measure_step_lt he hpos h₁
      exact eof_of_measure_lt_length es h₂ hn' (by simp only [List.length_cons] at hl; omega)
    · exact eof_run he h

theorem Chan.recv_isSome {c : Chan} : c.recv.isSome = true ↔ c.buf.isSome = true ∨ c.closed = true := by
  rcases c with ⟨_ | _, _ | _⟩ <;> simp [Chan.recv]

theorem Chan.send_isSome {c : Chan} {l : Bytes} (h : c.buf = none) : (c.send l).isSome = true := by
  rcases c with ⟨_ | _, _⟩
  · rfl
  · cases h

theorem read_isSome {n : Nat} {c : Case} {r : Reader} {ch : Chans}
    (h : r.closed = true ∨ r.buffer ≠ [] ∨ (select c r ch).isSome = true) : (read n c r ch).isSome = true := by
  unfold read
  by_cases hc : r.closed = true
  · rw [if_pos hc]
    rfl
  rw [if_neg hc]
  by_cases hb : r.buffer = []
  · rw [if_pos hb, Option.isSome_map']
    simpa [hc, hb] using h
  · rw [if_neg hb]
    rfl

/-- **Some step is always possible before `io.EOF`**: a call of `Read` with a
buffer of any size, or a step of the goroutine. -/
theorem Inv.exists_step {lines : List (Stream × Bytes)} {s : Sys} (hi : Inv lines s) (n : Nat) : (s.step .produce).isSome = true ∨ ∃ c, (s.step (.read n c)).isSome = true := by
  simp only [Sys.step, Option.isSome_map']
  by_cases hr : s.reader.closed = true ∨ s.reader.buffer ≠ []
  · exact .inr ⟨.err, read_isSome (hr.elim .inl (.inr ∘ .inl))⟩
  by_cases hs : ∃ st, s.reader.attached st = true ∧ ((s.chans.get st).recv.isSome = true)
  · obtain ⟨st, ha, hrecv⟩ := hs
    exact .inr ⟨.recv st, read_isSome (.inr (.inr (by simpa [select, ha] using hrecv)))⟩
  by_cases he' : s.chans.errChan.isSome = true
  · exact .inr ⟨.err, read_isSome (.inr (.inr (by simpa [select] using he')))⟩
  left
  have hquiet : ∀ st, s.reader.attached st = true → (s.chans.get st).buf = none ∧ (s.chans.get st).closed = false :=
    fun st ha => by
      have h := fun hr => hs ⟨st, ha, Chan.recv_isSome.mpr hr⟩
      exact ⟨Option.not_isSome_iff_eq_none.mp fun hb => h (.inl hb), by simpa using fun hc => h (.inr hc)⟩
  cases hg : s.goroutine with
  | logs rest err =>
    cases rest with
    | nil =>
      cases err with
      | none => rfl
      | some e => simp [Goroutine.step, hi.errChan_logs _ _ hg]
    | cons x rest =>
      simp only [Goroutine.step, Option.isSome_map']
      exact Chan.send_isSome (hquiet x.1 (hi.attached_of_logs hg x.1)).1
  | closeStdout => rfl
  | closeStderr => rfl
  | exited =>
    have hdet : ∀ st, s.reader.attached st = false := fun st => by
      by_contra ha
      have := (hquiet st (by simpa using ha)).2
      rw [hi.chan_closed, hg] at this
      cases st <;> cases this
    exact (hr (.inl (hi.reader_closed.mpr ⟨hdet .stdout, hdet .stderr⟩))).elim

/-- **From every state of the invariant some run reaches `io.EOF`**, its
reads taking their sizes from `sizes` in order, whatever positive sizes these
are. -/
theorem Inv.exists_run_eof {lines : List (Stream × Bytes)} (sizes : Nat → Nat) (hsz : ∀ i, 0 < sizes i) {s : Sys}
    (hi : Inv lines s) : ∃ evs s', readSizes evs = (List.range (readSizes evs).length).map sizes ∧
      Logs.run evs s = some s' ∧ s'.eof = true := by
  generalize hm : s.measure = m
  induction m using Nat.strong_induction_on generalizing s sizes with
  | _ m ih =>
  cases he : s.eof
  · rcases hi.exists_step (sizes 0) with hp | ⟨c, hr⟩
    · obtain ⟨s₁, h₁⟩ := Option.isSome_iff_exists.mp hp
      obtain ⟨evs, s', hevs, hrun, heof⟩ :=
        ih _ (hm ▸ Sys.measure_step_lt he (fun _ _ h => by cases h) h₁) sizes hsz (hi.step h₁) rfl
      exact ⟨.produce :: evs, s', by simpa using hevs, by simp [Logs.run, h₁, hrun], heof⟩
    · obtain ⟨s₁, h₁⟩ := Option.isSome_iff_exists.mp hr
      obtain ⟨evs, s', hevs, hrun, heof⟩ := ih _ (hm ▸ Sys.measure_step_lt he (fun _ _ h => by cases h; exact hsz 0) h₁)
        (fun i => sizes (i + 1)) (fun _ => hsz _) (hi.step h₁) rfl
      refine ⟨.read (sizes 0) c :: evs, s', ?_, by simp [Logs.run, h₁, hrun], heof⟩
      rw [readSizes_read, List.length_cons, List.range_succ_eq_map, List.map_cons, List.map_map]
      exact congrArg _ hevs
  · exact ⟨[], s, rfl, rfl, he⟩

/-- Lines none of which is on another stream than `st` are the lines of
`st`. -/
theorem map_snd_eq_linesOn {st : Stream} {l : List (Stream × Bytes)} (h : ∀ st', st' ≠ st → linesOn st' l = []) :
    l.map Prod.snd = linesOn st l := by
  have hall : ∀ x ∈ l, x.1 = st := fun x hx => by
    by_contra hne
    have := h x.1 hne
    simp only [linesOn, List.map_eq_nil_iff, List.filter_eq_nil_iff] at this
    exact this x hx (by simp)
  simp only [linesOn, List.filter_eq_self.mpr fun x hx => decide_eq_true (hall x hx)]

/-- **With one stream, the sending order.** When every line goes to the same
stream, what `Read` has returned at `io.EOF` is the lines in the order they
were sent, each with its newline. -/
theorem Inv.got_of_eof_one_stream {lines : List (Stream × Bytes)} {st : Stream} (hl : ∀ x ∈ lines, x.1 = st)
    {s : Sys} (hi : Inv lines s) (he : s.eof = true) : s.got = (lines.map fun x => withNewline x.2).flatten := by
  obtain ⟨taken, -, -, heof⟩ := hi.returned_lines
  obtain ⟨hall, hgot⟩ := heof he
  have hone : ∀ l : List (Stream × Bytes), (∀ st', st' ≠ st → linesOn st' l = []) →
      (l.map fun x => withNewline x.2).flatten = ((linesOn st l).map withNewline).flatten := fun l h => by
    rw [← map_snd_eq_linesOn h, List.map_map]
    rfl
  have hlines : ∀ st', st' ≠ st → linesOn st' lines = [] := fun st' hne => by
    simp only [linesOn, List.map_eq_nil_iff, List.filter_eq_nil_iff]
    exact fun x hx => by simp [hl x hx, Ne.symm hne]
  rw [hgot, hone taken fun st' h => (hall st').trans (hlines st' h), hone lines hlines, hall]

/-! ### The reader's outcomes -/

/-- **What the caller of `GetLogs` reads.** Whatever lines the goroutine
sends, whatever error `Logs` returns, whatever the sizes of the reads and the
choices of the `select`:
* at every point of a run, what `Read` has returned is a prefix of the lines
  it took from the channels, each with its newline, and these are, per
  stream, a prefix of the stream's lines; once it has returned `io.EOF`, it
  has taken every line of both streams and returned each exactly once, the
  lines of each stream in the order they were sent;
* a run whose reads are of positive size and which is longer than the measure
  of the start has returned `io.EOF`;
* from every state a run reaches, some run goes on to `io.EOF`, its reads of
  any given positive sizes;
* when all lines go to one stream, what `Read` returns before `io.EOF` is
  the lines in the order they were sent. -/
theorem reader_outcomes (lines : List (Stream × Bytes)) (err : Option String) :
    (∀ evs s, run evs (init lines err) = some s →
      ∃ taken : List (Stream × Bytes), (∀ st, linesOn st taken <+: linesOn st lines) ∧
        s.got <+: (taken.map fun x => withNewline x.2).flatten ∧
        (s.eof = true → (∀ st, linesOn st taken = linesOn st lines) ∧
          s.got = (taken.map fun x => withNewline x.2).flatten)) ∧
    (∀ evs s, run evs (init lines err) = some s → (∀ n ∈ readSizes evs, 0 < n) →
      (init lines err).measure < evs.length → s.eof = true) ∧
    (∀ evs s, run evs (init lines err) = some s → ∀ sizes : Nat → Nat, (∀ i, 0 < sizes i) →
      ∃ evs' s', readSizes evs' = (List.range (readSizes evs').length).map sizes ∧ run evs' s = some s' ∧
        s'.eof = true) ∧
    (∀ evs s st, run evs (init lines err) = some s → (∀ x ∈ lines, x.1 = st) → s.eof = true →
      s.got = (lines.map fun x => withNewline x.2).flatten) :=
  ⟨fun _ _ h => ((Inv.init lines err).run h).returned_lines,
    fun evs _ h hn hl => eof_of_measure_lt_length evs h hn hl,
    fun _ _ h sizes hsz => ((Inv.init lines err).run h).exists_run_eof sizes hsz,
    fun _ _ _ h hl he => ((Inv.init lines err).run h).got_of_eof_one_stream hl he⟩

/-- **A `stderr` line overtakes a `stdout` line.** The goroutine sends `a` on
`stdout` and then `b` on `stderr`; both sit in their slots when `Read` first
chooses, and its `select` takes `stderr`. The caller reads `b` before `a`, and
then `io.EOF`. -/
theorem log_lines_reordered :
    (run [.produce, .produce, .read 8 (.recv .stderr), .read 8 (.recv .stdout), .produce, .produce, .produce,
        .read 8 (.recv .stdout), .read 8 (.recv .stderr)] (init [(.stdout, [97]), (.stderr, [98])] none)).map
        (fun s => (s.got, s.eof)) = some ([98, 10, 97, 10], true) ∧
      ([(Stream.stdout, [97]), (Stream.stderr, [98])].map fun x => withNewline x.2).flatten = [97, 10, 98, 10] :=
  ⟨rfl, rfl⟩

end Logs

end PodmanSwarm
