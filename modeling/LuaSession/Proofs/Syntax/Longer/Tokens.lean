import LuaSession.Proofs.Syntax.Longer.Relation

/-!
# Tokens and scopes in a longer text

A token that is read from a text is the one that is read from a longer text, until the
first one ends. What readers do with the functions that are being read does not depend on
what is left of the text at all.
-/

namespace LuaSession.Syntax

open LuaSession.Script
open Lexer (EndsLine openQuote)

namespace Read

variable {α β : Type} {more : List UInt8} {limit tokens : Nat}

/-! ## Tokens -/

/-- Read a token and keep it. -/
def lexInto (keep : Token → ReadState → ReadState) : Read Token := do
  let token ← lex
  modify (keep token)
  return token

theorem run_lex (s : ReadState) :
    lex s = match s.next with
      | .ok lexed => .ok lexed.token (s.after lexed)
      | .error trouble => .error trouble s := by
  change (match s.next with
    | .ok lexed => (do
        set (s.after lexed)
        return lexed.token : Read Token)
    | .error trouble => throw trouble) s = _
  cases s.next <;> rfl

theorem run_lexInto (keep : Token → ReadState → ReadState) (s : ReadState) :
    lexInto keep s = match s.next with
      | .ok lexed => .ok lexed.token (keep lexed.token (s.after lexed))
      | .error trouble => .error trouble s := by
  rw [lexInto, run_bind, run_lex]
  cases s.next <;> rfl

theorem next_ended {s : ReadState} (ended : s.Ended) :
    s.next = .ok ⟨.eof, ByteArray.empty, s.line, []⟩ := by
  rw [ReadState.next, ended.nothing]
  cases s.size <;> rfl

theorem next_caught {s : ReadState} (caught : s.Caught more) :
    s.next = .error (.openQuote s.line) := by
  obtain ⟨size, isSize⟩ := Nat.exists_eq_add_one_of_ne_zero (Nat.ne_zero_of_lt caught.room)
  rw [ReadState.next, caught.rest, isSize]
  exact Lexer.next_openQuote _ _ _

/-- A token is kept in such a way that the state is again of the kind that it was of. -/
structure Retains (more : List UInt8) (tokens : Nat) (s : ReadState)
    (keep : Token → ReadState → ReadState) : Prop where
  inside : ∀ lexed : Lexer.Lexed, lexed.token ≠ .eof → EndsLine lexed.rest →
    lexed.rest.length < s.rest.length →
      (keep lexed.token (s.after lexed)).Inside ∧ (keep lexed.token (s.after lexed)).size = s.size ∧
        (keep lexed.token (s.after lexed)).left + tokens ≤ s.left
  ended : ∀ line, (keep .eof (s.after ⟨.eof, ByteArray.empty, line, []⟩)).Ended
  caught : ∀ lexed : Lexer.Lexed, lexed.token ≠ .eof → lexed.rest = openQuote →
    (keep lexed.token ((s.extend more).after lexed)).Caught more
  blind : ∀ token t, keep token (t.extend more) = (keep token t).extend more

theorem continues_lexInto {s : ReadState} {keep : Token → ReadState → ReadState}
    (ends : EndsLine s.rest) (room : s.rest.length < s.size)
    (retains : Retains more tokens s keep) :
    Continues more s.size s.left tokens (lexInto keep s) (lexInto keep (s.extend more)) := by
  obtain ⟨out, -, recurs⟩ := Lexer.recurs_next s.size s.size s.line ends room (Nat.le_of_lt room)
  have recurs := recurs more
  change Lexer.NextRecurs out more _ s.next (s.extend more).next at recurs
  have nonempty := List.length_pos_iff.mpr ends.ne_nil
  rw [run_lexInto, run_lexInto]
  have caught : Lexer.GetsOut (s.extend more).next → (Trap.caught more).Catches
      (match (s.extend more).next with
        | .ok lexed => .ok lexed.token (keep lexed.token ((s.extend more).after lexed))
        | .error trouble => .error trouble (s.extend more)) := by
    intro getsOut
    cases found : (s.extend more).next with
    | ok lexed =>
        rw [found] at getsOut
        exact retains.caught lexed getsOut.1 getsOut.2
    | error trouble =>
        rw [found] at getsOut
        exact getsOut
  cases found : s.next with
  | ok lexed =>
      rw [found] at recurs
      generalize (s.extend more).next = longer at recurs ⊢
      cases recurs with
      | token agrees =>
          cases agrees with
          | ok recurs =>
              obtain ⟨inside, size, fewer⟩ := retains.inside lexed recurs.isToken recurs.ends
                (Nat.lt_of_le_of_lt recurs.length (Nat.sub_one_lt_of_lt nonempty))
              rw [recurs.longer]
              change Continues more _ _ _ _ (.ok _ (keep _ ((s.after lexed).extend more)))
              rw [retains.blind]
              exact .same inside size fewer
      | finish goesOn =>
          refine .finished (retains.ended _) fun isQuote => ?_
          obtain ⟨line, rfl⟩ := goesOn isQuote
          exact ⟨line, _, rfl⟩
  | error trouble =>
      have stops (isOpen : trouble.IsOpen) : s.StopsInside trouble := ⟨isOpen, ends, room, found⟩
      rw [found] at recurs
      generalize isLonger : (s.extend more).next = longer at recurs caught ⊢
      cases recurs with
      | token agrees =>
          cases agrees with
          | failed notAtEnd => exact .failed notAtEnd ends.ne_nil
          | ended isOpen => exact .unfinished (stops isOpen) (isLonger ▸ caught)

/-- Read the token that becomes the current one. -/
def lexCurrent : Read Token := lexInto fun token s => { s with token }

theorem retains_current (more : List UInt8) {s : ReadState} (ahead : s.ahead = none)
    (room : s.left < s.size) :
    Retains more 1 s fun token t => { t with token } := by
  refine ⟨fun lexed isToken ends fewer => ?_, fun _ => ?_, fun lexed isToken isQuote => ?_,
    fun _ _ => rfl⟩
  · have left : ReadState.left { s.after lexed with token := lexed.token } + 1 ≤ s.left := by
      simpa [ReadState.left, ReadState.after, ahead] using Nat.succ_le_of_lt fewer
    refine ⟨⟨ends, Nat.lt_of_lt_of_le left (Nat.le_of_lt room), isToken, ?_⟩, rfl, left⟩
    simp [ReadState.after, ahead]
  · exact ⟨rfl, rfl, .inl ahead⟩
  · refine ⟨isQuote, ?_, isToken, ?_⟩
    · exact Nat.lt_add_of_pos_left (Nat.zero_lt_of_lt room)
    · simp [ReadState.after, ReadState.extend, ahead]

theorem keeps_lexCurrent_ended : Trap.ended.Keeps lexCurrent := by
  intro s ended
  rw [lexCurrent, run_lexInto, next_ended ended]
  exact ⟨rfl, rfl, ended.ahead⟩

theorem keeps_lexCurrent_caught (more : List UInt8) : (Trap.caught more).Keeps lexCurrent := by
  intro s caught
  rw [lexCurrent, run_lexInto, next_caught caught]
  exact Trouble.not_isAtEnd_openQuote _

theorem run_advance_some {s : ReadState} {token : Token} (ahead : s.ahead = some token) :
    advance s = .ok () { s with lastLine := s.line, token, ahead := none } := by
  rw [advance, run_get_bind, ahead]
  rfl

theorem run_advance_none {s : ReadState} (ahead : s.ahead = none) :
    advance s = (lexCurrent >>= fun _ => pure ()) { s with lastLine := s.line } := by
  have goesOn : advance s =
      (lex >>= fun token => modify fun (t : ReadState) => { t with token } : Read Unit)
        { s with lastLine := s.line } := by
    rw [advance, run_get_bind, ahead]
    rfl
  rw [goesOn, run_bind, run_bind, lexCurrent, run_lexInto, run_lex]
  cases ReadState.next { s with lastLine := s.line } <;> rfl

/-- The first token is read like all others, although there is no current one before it. -/
theorem continues_advance (more : List UInt8) {s : ReadState} (ends : EndsLine s.rest)
    (room : s.left < s.size) (noEnd : s.ahead ≠ some .eof) :
    Continues more s.size s.left 1 (advance s) (advance (s.extend more)) := by
  cases ahead : s.ahead with
  | some token =>
      rw [run_advance_some ahead, run_advance_some (s := s.extend more) ahead]
      have left :
          ReadState.left { s with lastLine := s.line, token, ahead := none } + 1 = s.left := by
        simp [ReadState.left, ahead]
      refine .same (t := { s with lastLine := s.line, token, ahead := none })
        ⟨ends, Nat.lt_trans (Nat.lt_of_succ_le (Nat.le_of_eq left)) room, ?_, by simp⟩ rfl
        (Nat.le_of_eq left)
      rintro rfl
      exact noEnd ahead
  | none =>
      rw [run_advance_none ahead, run_advance_none (s := s.extend more) ahead]
      have room' : s.rest.length < s.size := Nat.lt_of_le_of_lt (Nat.le_add_right _ _) room
      have step := continues_lexInto (s := { s with lastLine := s.line }) ends room'
        (retains_current more ahead room)
      exact step.bind (fun _ => follows_pure () _) (Nat.lt_succ_self _) (Nat.le_refl _)

theorem follows_advance (limit : Nat) : Follows more limit 1 advance advance := by
  refine ⟨fun s ended => ?_, fun s caught => ?_, fun s inside _ =>
    continues_advance more inside.ends inside.room inside.ahead⟩
  · obtain ahead | ahead := ended.ahead
    · rw [run_advance_none ahead]
      have keeps := keeps_lexCurrent_ended.bind fun _ => Trap.keeps_pure ()
      exact keeps { s with lastLine := s.line } ⟨ended.nothing, ended.buffer, ended.ahead⟩
    · rw [run_advance_some ahead]
      exact ⟨ended.nothing, ended.buffer, .inl rfl⟩
  · cases ahead : s.ahead with
    | some token =>
        rw [run_advance_some ahead]
        refine ⟨caught.rest, caught.room, ?_, by simp⟩
        rintro rfl
        exact caught.ahead ahead
    | none =>
        rw [run_advance_none ahead]
        have keeps := (keeps_lexCurrent_caught more).bind fun _ => Trap.keeps_pure ()
        exact keeps { s with lastLine := s.line }
          ⟨caught.rest, caught.room, caught.token, caught.ahead⟩

theorem follows_lookAhead (limit : Nat) : Follows more limit 0 lookAhead lookAhead := by
  have isLexInto : lookAhead = lexInto fun token s => { s with ahead := some token } := rfl
  rw [isLexInto]
  refine ⟨fun s ended => ?_, fun s caught => ?_, fun s inside _ => ?_⟩
  · rw [run_lexInto, next_ended ended]
    exact ⟨rfl, rfl, .inr rfl⟩
  · rw [run_lexInto, next_caught caught]
    exact Trouble.not_isAtEnd_openQuote _
  · have room : s.rest.length < s.size := Nat.lt_of_le_of_lt (Nat.le_add_right _ _) inside.room
    refine continues_lexInto inside.ends room ⟨fun lexed isToken ends fewer => ?_,
      fun _ => ⟨rfl, rfl, .inr rfl⟩, fun lexed isToken isQuote => ?_, fun _ _ => rfl⟩
    · have left : ReadState.left { s.after lexed with ahead := some lexed.token } ≤ s.left := by
        simp only [ReadState.left, ReadState.after, Option.toList_some, List.length_singleton]
        omega
      refine ⟨⟨ends, Nat.lt_of_le_of_lt left inside.room, inside.token, ?_⟩, rfl, left⟩
      simpa using isToken
    · refine ⟨isQuote, Nat.lt_add_of_pos_left (Nat.zero_lt_of_lt room), inside.token, ?_⟩
      simpa using isToken

/-- What follows a token that may or may not stand here. -/
theorem follows_accept {limit' tokens' : Nat} {f g : Bool → Read β} (expected : Token)
    (yes : Follows more limit' tokens' (f true) (g true))
    (no : Follows more limit tokens (f false) (g false)) (fits : limit ≤ limit' + 1)
    (sum : tokens ≤ tokens' + 1) :
    Follows more limit tokens (accept expected >>= f) (accept expected >>= g) := by
  have run (f : Bool → Read β) (s : ReadState) : (accept expected >>= f) s =
      if s.token == expected then (advance >>= fun _ => f true) s else f false s := by
    have accepted : accept expected s =
        if s.token == expected then (advance >>= fun _ => pure true) s else .ok false s := by
      change (if s.token == expected then (advance >>= fun _ => pure true) else pure false) s = _
      split <;> rfl
    rw [run_bind, accepted]
    by_cases stands : s.token == expected
    · rw [if_pos stands, if_pos stands, run_bind, run_bind]
      cases advance s <;> rfl
    · rw [if_neg stands, if_neg stands]
  have goOn : Follows more limit tokens (advance >>= fun _ => f true)
      (advance >>= fun _ => g true) :=
    (follows_advance limit).bind (fun _ => yes) fits (by omega)
  refine ⟨fun s ended => ?_, fun s caught => ?_, fun s inside few => ?_⟩
  · rw [run]
    split
    · exact goOn.ended s ended
    · exact no.ended s ended
  · rw [run]
    split
    · exact goOn.caught s caught
    · exact no.caught s caught
  · rw [run, run, ReadState.extend_token]
    split
    · exact goOn.continues s inside few
    · exact no.continues s inside few

/-! ## The functions being read -/

theorem follows_modifyScope (f : FunctionScope → FunctionScope) (limit : Nat) :
    Follows more limit 0 (modifyScope f) (modifyScope f) :=
  follows_modify (fun _ => {}) fun _ => rfl

theorem follows_leave (limit : Nat) : Follows more limit 0 leave leave :=
  follows_modify (fun _ => {}) fun _ => rfl

theorem follows_enter (limit : Nat) : Follows more limit 0 enter enter := by
  have run (s : ReadState) : enter s = if s.depth + 1 ≥ depthLimit then .error .tooDeep s
      else .ok () { s with depth := s.depth + 1 } := by
    change (if s.depth + 1 ≥ depthLimit then _ else _ : Read Unit) s = _
    split <;> rfl
  refine follows_of_stays (fun s => ?_) limit
  by_cases tooDeep : s.depth + 1 ≥ depthLimit
  · have fits : Trouble.tooDeep.Fits s := trivial
    refine .fails fits ?_ ?_
    · exact (run s).trans (if_pos tooDeep)
    · exact (run (s.extend more)).trans (if_pos tooDeep)
  · apply Stays.gives (t := { s with depth := s.depth + 1 }) {}
    · exact (run s).trans (if_neg tooDeep)
    · exact (run (s.extend more)).trans (if_neg tooDeep)

theorem follows_beginFunction (line limit : Nat) :
    Follows more limit 0 (beginFunction line) (beginFunction line) :=
  follows_modify (fun _ => {}) fun _ => rfl

theorem follows_endFunction (limit : Nat) : Follows more limit 0 endFunction endFunction := by
  refine follows_modify (fun s => ?_) fun s => ?_
  · cases around : s.outer <;> exact {}
  · cases around : s.outer <;> simp [ReadState.extend, around]

theorem follows_meaning (name : Bytes) (limit : Nat) :
    Follows more limit 0 (meaning name) (meaning name) := by
  refine follows_of_stays (fun s => ?_) limit
  have there : lookUp name ((s.extend more).scope :: (s.extend more).outer) =
      lookUp name (s.scope :: s.outer) := rfl
  cases found : lookUp name (s.scope :: s.outer) with
  | error line =>
      rw [found] at there
      have fits (what : Bytes) :
          (Trouble.at s.line what (Near.ofToken s.token s.buffer)).Fits s := .inr rfl
      apply Stays.fails (fits _)
      · rw [meaning, run_get_bind, found]
        rfl
      · rw [meaning, run_get_bind, there]
        rfl
  | ok result =>
      rw [found] at there
      obtain ⟨value, _ | ⟨scope, outer⟩⟩ := result
      · apply Stays.gives (t := s) {}
        · rw [meaning, run_get_bind, found]
          rfl
        · rw [meaning, run_get_bind, there]
          rfl
      · apply Stays.gives (t := { s with scope, outer }) {}
        · rw [meaning, run_get_bind, found]
          rfl
        · rw [meaning, run_get_bind, there]
          rfl

/-- Every reader of the grammar does the same in a longer text. -/
def lengthening (more : List UInt8) : Judgement where
  Relates limit tokens run longer := Follows more limit tokens run longer
  Closes run := ∀ limit, Follows more limit 0 run run
  extra := more.length
  relates_mono follows fewer less := follows.mono fewer less
  relates_bind first later fits sum := first.bind later fits sum
  relates_pure := follows_pure
  relates_idle := follows_idle
  relates_size := follows_size
  relates_get later blind := follows_get_bind later fun s => blind s _ _
  relates_fail := follows_fail
  relates_failMeaning := follows_failMeaning
  relates_tooDeep := follows_tooDeep
  relates_advance := follows_advance
  relates_lookAhead := follows_lookAhead
  relates_accept := follows_accept
  relates_enter := follows_enter
  relates_leave := follows_leave
  relates_modifyScope _ := follows_modifyScope _
  relates_meaning := follows_meaning
  relates_beginFunction line closes limit :=
    (follows_beginFunction line limit).bind (fun _ => closes limit) (Nat.le_refl _) (Nat.le_refl _)
  closes_endFunction := follows_endFunction
  closes_bind first later limit :=
    (first limit).bind (fun value => later value limit) (Nat.le_refl _) (Nat.le_refl _)
  closes_then first later limit :=
    (first limit).bind (fun value => later value limit) (Nat.le_refl _) (Nat.le_refl _)

end Read

end LuaSession.Syntax
