import LuaSession.Proofs.Syntax.Lexing.Next
import LuaSession.Proofs.Syntax.Environment

/-!
# Reading a longer text

A reader that is given a text of whole lines and one that is given the same text with
more behind it do the same until the end of the shorter text is reached. From there on
the shorter text has nothing left, and the longer one goes on with what was added.

What comes after that is not compared any more. Either text is then in a trap: no reader
leads out of a text of which nothing is left, or of which an open quote is left.
-/

namespace LuaSession.Syntax

open LuaSession.Script
open Lexer (EndsLine openQuote)

/-- What a message shows of the text ends as messages show the end of the text. -/
def Near.QuotesEnd : Near → Prop
  | .text bytes => "<eof>".toUTF8.toList <:+ bytes.toList
  | _ => False

namespace Near

instance : DecidablePred QuotesEnd
  | .text bytes => inferInstanceAs (Decidable ("<eof>".toUTF8.toList <:+ bytes.toList))
  | .nowhere | .eof => inferInstanceAs (Decidable False)

theorem ofToken_eq_eof {token : Token} {buffer : Bytes} (isEof : ofToken token buffer = .eof) :
    token = .eof := by
  cases token with
  | eof => rfl
  | symbol b =>
      rw [ofToken] at isEof
      split at isEof <;> contradiction
  | _ => contradiction

theorem not_quotesEnd_byteText (b : UInt8) : ¬(text (byteText b)).QuotesEnd := by
  have all : ∀ n : Fin 256, ¬(text (byteText (UInt8.ofNat n))).QuotesEnd := by decide +kernel
  have here := all ⟨b.toNat, b.toNat_lt⟩
  rwa [UInt8.ofNat_toNat] at here

/-- A token of which no text has been kept is not shown as the end of the text is. -/
theorem not_quotesEnd_ofToken (token : Token) : ¬(ofToken token ByteArray.empty).QuotesEnd := by
  have nothing : ¬(text (beforeZero ByteArray.empty)).QuotesEnd := by decide +kernel
  cases token with
  | eof => exact id
  | keyword word => cases word <;> exact of_decide_eq_false (by decide +kernel)
  | symbol b =>
      rw [ofToken]
      split
      · exact id
      · exact not_quotesEnd_byteText b
  | _ => exact nothing

end Near

namespace Trouble

/-- What is wrong with a line that is a quote left open. -/
def openQuote (line : Nat) : Trouble :=
  .at line "unfinished string".toUTF8 (.text (beforeZero (Lexer.reversed [0x22])))

/-- What a message shows of the text ends as messages show the end of the text. -/
def QuotesEnd : Trouble → Prop
  | .at _ _ near => near.QuotesEnd
  | .tooDeep => False

instance : DecidablePred QuotesEnd
  | .at _ _ near => inferInstanceAs (Decidable near.QuotesEnd)
  | .tooDeep => inferInstanceAs (Decidable False)

/-- The current token is shown with what is wrong, or no token is. -/
def Fits (s : ReadState) : Trouble → Prop
  | .at _ _ near => near = .nowhere ∨ near = Near.ofToken s.token s.buffer
  | .tooDeep => True

theorem IsOpen.isAtEnd {trouble : Trouble} (isOpen : trouble.IsOpen) : trouble.IsAtEnd := by
  cases trouble with
  | «at» => exact isOpen.1
  | tooDeep => exact isOpen

theorem IsOpen.not_quotesEnd {trouble : Trouble} (isOpen : trouble.IsOpen) :
    ¬trouble.QuotesEnd := by
  cases trouble with
  | «at» =>
      obtain ⟨rfl, -⟩ := isOpen
      exact id
  | tooDeep => exact id

theorem not_isAtEnd_openQuote (line : Nat) : ¬(openQuote line).IsAtEnd := Near.noConfusion

theorem Fits.not_isAtEnd {trouble : Trouble} {s : ReadState} (fits : trouble.Fits s)
    (isToken : s.token ≠ .eof) : ¬trouble.IsAtEnd := by
  cases trouble with
  | tooDeep => exact id
  | «at» _ _ near =>
      obtain rfl | rfl := fits
      · exact Near.noConfusion
      · exact fun isEof => isToken (Near.ofToken_eq_eof isEof)

theorem Fits.not_quotesEnd {trouble : Trouble} {s : ReadState} (fits : trouble.Fits s)
    (nothing : s.buffer = ByteArray.empty) : ¬trouble.QuotesEnd := by
  cases trouble with
  | tooDeep => exact id
  | «at» _ _ near =>
      obtain rfl | rfl := fits
      · exact id
      · rw [nothing]
        exact Near.not_quotesEnd_ofToken s.token

end Trouble

namespace ReadState

/-- The state of reading a longer text at the same place. -/
def extend (more : List UInt8) (s : ReadState) : ReadState :=
  { s with rest := s.rest ++ more, size := s.size + more.length }

/-- How many tokens may follow the current one. -/
def left (s : ReadState) : Nat := s.rest.length + s.ahead.toList.length

/-- The state after a token has been read from the text. -/
def after (s : ReadState) (lexed : Lexer.Lexed) : ReadState :=
  { s with rest := lexed.rest, line := lexed.line, buffer := lexed.buffer }

/-- What comes next in the text. -/
def next (s : ReadState) : Lexer.Result Lexer.Lexed := Lexer.next s.size s.size s.line s.rest

/-- Something of a text of whole lines is left to be read. -/
structure Inside (s : ReadState) : Prop where
  ends : EndsLine s.rest
  room : s.left < s.size
  token : s.token ≠ .eof
  ahead : s.ahead ≠ some .eof

/-- Nothing of the text is left to be read. -/
structure Ended (s : ReadState) : Prop where
  nothing : s.rest = []
  buffer : s.buffer = ByteArray.empty
  ahead : s.ahead = none ∨ s.ahead = some .eof

/-- Behind the current token, what was added to the text ends with an open quote. -/
structure Caught (more : List UInt8) (s : ReadState) : Prop where
  rest : s.rest = openQuote
  room : more.length < s.size
  token : s.token ≠ .eof
  ahead : s.ahead ≠ some .eof

/-- The text ends inside the token that comes next. -/
structure StopsInside (s : ReadState) (trouble : Trouble) : Prop where
  isOpen : trouble.IsOpen
  ends : EndsLine s.rest
  room : s.rest.length < s.size
  next : s.next = .error trouble

/-- Two states of reading do not differ in what is left of the text. -/
structure SamePlace (s t : ReadState) : Prop where
  rest : t.rest = s.rest := by rfl
  size : t.size = s.size := by rfl
  token : t.token = s.token := by rfl
  buffer : t.buffer = s.buffer := by rfl
  ahead : t.ahead = s.ahead := by rfl

@[simp] theorem extend_token (more : List UInt8) (s : ReadState) :
    (s.extend more).token = s.token := rfl

namespace SamePlace

variable {s t : ReadState}

theorem left (same : SamePlace s t) : t.left = s.left := by
  rw [ReadState.left, ReadState.left, same.rest, same.ahead]

theorem inside (same : SamePlace s t) (inside : s.Inside) : t.Inside where
  ends := same.rest ▸ inside.ends
  room := by rw [same.left, same.size]; exact inside.room
  token := same.token ▸ inside.token
  ahead := same.ahead ▸ inside.ahead

theorem ended (same : SamePlace s t) (ended : s.Ended) : t.Ended where
  nothing := same.rest ▸ ended.nothing
  buffer := same.buffer ▸ ended.buffer
  ahead := same.ahead ▸ ended.ahead

theorem caught {more : List UInt8} (same : SamePlace s t) (caught : s.Caught more) :
    t.Caught more where
  rest := same.rest ▸ caught.rest
  room := same.size ▸ caught.room
  token := same.token ▸ caught.token
  ahead := same.ahead ▸ caught.ahead

end SamePlace

end ReadState

/-! ## Traps -/

/-- States that no reader leads out of, and what may be wrong there. -/
structure Trap where
  holds : ReadState → Prop
  fits : Trouble → ReadState → Prop

namespace Trap

variable {α β : Type} {trap : Trap}

/-- The result of reading is in a trap. -/
def Catches (trap : Trap) : EStateM.Result Trouble ReadState α → Prop
  | .ok _ t => trap.holds t
  | .error trouble t => trap.fits trouble t

/-- A reader does not lead out of a trap. -/
def Keeps (trap : Trap) (run : Read α) : Prop := ∀ s, trap.holds s → trap.Catches (run s)

/-- Where nothing is left, no message shows a part of the text. -/
def ended : Trap where
  holds := ReadState.Ended
  fits trouble s := s.rest = [] ∧ ¬trouble.QuotesEnd

/-- Where an open quote is left, the end of the text is not reached. -/
def caught (more : List UInt8) : Trap where
  holds := ReadState.Caught more
  fits trouble _ := ¬trouble.IsAtEnd

theorem Keeps.catches_bind {run : Read α} {f : α → Read β} (later : ∀ value, trap.Keeps (f value))
    {s : ReadState} (catches : trap.Catches (run s)) : trap.Catches ((run >>= f) s) := by
  rw [Read.run_bind]
  cases found : run s with
  | ok value t =>
      rw [found] at catches
      exact later value t catches
  | error trouble t =>
      rw [found] at catches
      exact catches

theorem keeps_pure (value : α) : trap.Keeps (pure value) := fun _ => id

theorem Keeps.bind {run : Read α} {f : α → Read β} (first : trap.Keeps run)
    (later : ∀ value, trap.Keeps (f value)) : trap.Keeps (run >>= f) :=
  fun s holds => Keeps.catches_bind later (first s holds)

end Trap

/-! ## Two texts -/

namespace Read

variable {α β : Type} (more : List UInt8)

/-- What becomes of reading a text of which so much is left, and a longer one: at least
so many tokens are consumed. -/
inductive Continues (size left tokens : Nat) :
    EStateM.Result Trouble ReadState α → EStateM.Result Trouble ReadState α → Prop
  /-- The same is read from both. -/
  | same {value : α} {t : ReadState} (inside : t.Inside) (sameSize : t.size = size)
      (fewer : t.left + tokens ≤ left) :
      Continues size left tokens (.ok value t) (.ok value (t.extend more))
  /-- The same is wrong with both. -/
  | failed {trouble : Trouble} {t u : ReadState} (notAtEnd : ¬trouble.IsAtEnd)
      (unread : t.rest ≠ []) : Continues size left tokens (.error trouble t) (.error trouble u)
  /-- The shorter text ends within a token. What was added may lead out of it. -/
  | unfinished {trouble : Trouble} {t : ReadState} {longer : EStateM.Result Trouble ReadState α}
      (stops : t.StopsInside trouble)
      (getsOut : Lexer.GetsOut (t.extend more).next → (Trap.caught more).Catches longer) :
      Continues size left tokens (.error trouble t) longer
  /-- All of the shorter text has been read. -/
  | finished {first longer : EStateM.Result Trouble ReadState α}
      (ended : Trap.ended.Catches first)
      (goesOn : more = openQuote → ∃ line u, longer = .error (.openQuote line) u) :
      Continues size left tokens first longer

/-- A reader of a text, and one of a longer text, when fewer tokens than the limit are
left. -/
structure Follows (limit tokens : Nat) (run longer : Read α) : Prop where
  ended : Trap.ended.Keeps run
  caught : (Trap.caught more).Keeps longer
  continues : ∀ s : ReadState, s.Inside → s.left < limit →
    Continues more s.size s.left tokens (run s) (longer (s.extend more))

variable {more} {limit tokens : Nat}

theorem Continues.bind {size left limit' tokens' tokens'' : Nat} {run longer : Read α}
    {f g : α → Read β} {s s' : ReadState}
    (step : Continues more size left tokens (run s) (longer s'))
    (later : ∀ value, Follows more limit' tokens' (f value) (g value))
    (few : left < limit' + tokens) (sum : tokens'' ≤ tokens + tokens') :
    Continues more size left tokens'' ((run >>= f) s) ((longer >>= g) s') := by
  have caught (result : (Trap.caught more).Catches (longer s')) :
      (Trap.caught more).Catches ((longer >>= g) s') :=
    Trap.Keeps.catches_bind (fun value => (later value).caught) result
  have ended (result : Trap.ended.Catches (run s)) : Trap.ended.Catches ((run >>= f) s) :=
    Trap.Keeps.catches_bind (fun value => (later value).ended) result
  rw [run_bind] at caught ended ⊢
  rw [run_bind]
  generalize run s = result at step ended ⊢
  generalize longer s' = result' at step caught ⊢
  cases step with
  | @same value t inside size left =>
      have step' := (later value).continues t inside (by omega)
      dsimp only
      generalize f value t = result at step' ⊢
      generalize g value (t.extend more) = result' at step' ⊢
      cases step' with
      | same inside size' left' => exact .same inside (size'.trans size) (by omega)
      | failed notAtEnd unread => exact .failed notAtEnd unread
      | unfinished stops getsOut => exact .unfinished stops getsOut
      | finished ended goesOn => exact .finished ended goesOn
  | failed notAtEnd unread => exact .failed notAtEnd unread
  | unfinished stops getsOut => exact .unfinished stops fun out => caught (getsOut out)
  | finished result goesOn =>
      refine .finished (ended result) fun isQuote => ?_
      obtain ⟨line, u, rfl⟩ := goesOn isQuote
      exact ⟨line, u, rfl⟩

theorem Follows.bind {limit' tokens' tokens'' : Nat} {run longer : Read α} {f g : α → Read β}
    (first : Follows more limit tokens run longer)
    (later : ∀ value, Follows more limit' tokens' (f value) (g value))
    (fits : limit ≤ limit' + tokens) (sum : tokens'' ≤ tokens + tokens') :
    Follows more limit tokens'' (run >>= f) (longer >>= g) where
  ended := first.ended.bind fun value => (later value).ended
  caught := first.caught.bind fun value => (later value).caught
  continues s inside few :=
    (first.continues s inside few).bind later (Nat.lt_of_lt_of_le few fits) sum

theorem Follows.mono {limit' tokens' : Nat} {run longer : Read α}
    (follows : Follows more limit tokens run longer) (fewer : limit' ≤ limit)
    (less : tokens' ≤ tokens) : Follows more limit' tokens' run longer where
  ended := follows.ended
  caught := follows.caught
  continues s inside few := by
    have step := follows.continues s inside (Nat.lt_of_lt_of_le few fewer)
    generalize run s = result at step ⊢
    generalize longer (s.extend more) = result' at step ⊢
    cases step with
    | same inside size left => exact .same inside size (by omega)
    | failed notAtEnd unread => exact .failed notAtEnd unread
    | unfinished stops getsOut => exact .unfinished stops getsOut
    | finished ended goesOn => exact .finished ended goesOn

/-- Where no token is left, the two are not compared. -/
theorem follows_idle {run longer : Read α} (first : Follows more 0 0 run run)
    (second : Follows more 0 0 longer longer) : Follows more 0 0 run longer :=
  ⟨first.ended, second.caught, fun _ _ few => by contradiction⟩

/-! ## Readers that read no token -/

theorem ended_error {s : ReadState} {trouble : Trouble} (fits : trouble.Fits s) (ended : s.Ended) :
    Trap.ended.Catches (.error trouble s : EStateM.Result Trouble ReadState α) :=
  ⟨ended.nothing, fits.not_quotesEnd ended.buffer⟩

theorem caught_error {s : ReadState} {trouble : Trouble} (fits : trouble.Fits s)
    (caught : s.Caught more) :
    (Trap.caught more).Catches (.error trouble s : EStateM.Result Trouble ReadState α) :=
  fits.not_isAtEnd caught.token

theorem continues_error {s u : ReadState} {trouble : Trouble} (fits : trouble.Fits s)
    (inside : s.Inside) {size left : Nat} :
    Continues (α := α) more size left tokens (.error trouble s) (.error trouble u) :=
  .failed (fits.not_isAtEnd inside.token) inside.ends.ne_nil

theorem continues_ok {s t : ReadState} (same : s.SamePlace t) (inside : s.Inside) (value : α) :
    Continues more s.size s.left 0 (.ok value t) (.ok value (t.extend more)) :=
  .same (same.inside inside) same.size (Nat.le_of_eq same.left)

/-- A reader goes by what is not left of the text, and changes nothing else. -/
inductive Stays (more : List UInt8) (run : Read α) (s : ReadState) : Prop
  | gives {value : α} {t : ReadState} (same : s.SamePlace t) (here : run s = .ok value t)
      (there : run (s.extend more) = .ok value (t.extend more))
  | fails {trouble : Trouble} (fits : trouble.Fits s) (here : run s = .error trouble s)
      (there : run (s.extend more) = .error trouble (s.extend more))

theorem follows_of_stays {run : Read α} (stays : ∀ s, Stays more run s) (limit : Nat) :
    Follows more limit 0 run run := by
  refine ⟨fun s ended => ?_, fun s caught => ?_, fun s inside _ => ?_⟩
  · cases stays s with
    | gives same here => exact here ▸ same.ended ended
    | fails fits here => exact here ▸ ended_error fits ended
  · cases stays s with
    | gives same here => exact here ▸ same.caught caught
    | fails fits here => exact here ▸ caught_error fits caught
  · cases stays s with
    | gives same here there =>
        rw [here, there]
        exact continues_ok same inside _
    | fails fits here there =>
        rw [here, there]
        exact continues_error fits inside

theorem follows_pure (value : α) (limit : Nat) :
    Follows more limit 0 (pure value : Read α) (pure value) :=
  follows_of_stays (fun s => .gives (t := s) {} rfl rfl) limit

/-- A reader that fails, and reads nothing. -/
theorem follows_error {run : Read α} (trouble : ReadState → Trouble)
    (fails : ∀ s, run s = .error (trouble s) s) (fits : ∀ s, (trouble s).Fits s)
    (blind : ∀ s, trouble (s.extend more) = trouble s) (limit tokens : Nat) :
    Follows more limit tokens run run where
  ended s ended := fails s ▸ ended_error (fits s) ended
  caught s caught := fails s ▸ caught_error (fits s) caught
  continues s inside _ := by
    rw [fails, fails, blind]
    exact continues_error (fits s) inside

theorem follows_tooDeep (limit tokens : Nat) :
    Follows more limit tokens (throw .tooDeep : Read α) (throw .tooDeep) :=
  follows_error (fun _ => .tooDeep) (fun _ => rfl) (fun _ => trivial) (fun _ => rfl) _ _

theorem follows_fail (what : Bytes) (limit tokens : Nat) :
    Follows more limit tokens (fail what : Read α) (fail what) :=
  follows_error (fun s => .at s.line what (Near.ofToken s.token s.buffer))
    (fun _ => rfl) (fun _ => .inr rfl) (fun _ => rfl) _ _

theorem follows_failMeaning (what : Bytes) (limit tokens : Nat) :
    Follows more limit tokens (failMeaning what : Read α) (failMeaning what) :=
  follows_error (fun s => .at s.line what .nowhere)
    (fun _ => rfl) (fun _ => .inl rfl) (fun _ => rfl) _ _

/-- A reader that looks at the state, but not at what is left. -/
theorem follows_get_bind {f : ReadState → Read β}
    (later : ∀ s, Follows more limit tokens (f s) (f s))
    (blind : ∀ s, f (s.extend more) = f s) :
    Follows more limit tokens ((get : Read ReadState) >>= f) ((get : Read ReadState) >>= f) where
  ended s := (later s).ended s
  caught s := (later s).caught s
  continues s inside few := by
    have step := (later s).continues s inside few
    change Continues more s.size s.left tokens (f s s) (f (s.extend more) (s.extend more))
    rw [blind s]
    exact step

/-- A reader that looks how large the text is. -/
theorem follows_size {f : Nat → Read β}
    (later : ∀ fuel, Follows more fuel 0 (f fuel) (f (fuel + more.length))) (limit : Nat) :
    Follows more limit 0 ((get : Read ReadState) >>= fun s => f s.size)
      ((get : Read ReadState) >>= fun s => f s.size) := by
  refine ⟨fun s => (later s.size).ended s, fun s caught => ?_, fun s inside _ => ?_⟩
  · have keeps := (later (s.size - more.length)).caught s caught
    rwa [Nat.sub_add_cancel (Nat.le_of_lt caught.room)] at keeps
  · exact (later s.size).continues s inside inside.room

/-- Only what is not left of the text is changed. -/
theorem follows_modify {f : ReadState → ReadState} (same : ∀ s : ReadState, s.SamePlace (f s))
    (blind : ∀ s, f (s.extend more) = (f s).extend more) :
    Follows more limit 0 (modify f : Read Unit) (modify f) :=
  follows_of_stays (fun s => .gives (same s) rfl (congrArg (EStateM.Result.ok ()) (blind s))) limit

end Read

end LuaSession.Syntax
