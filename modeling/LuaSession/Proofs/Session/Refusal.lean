import LuaSession.Proofs.Session.Location
import LuaSession.Proofs.Syntax.Incomplete
import LuaSession.Proofs.Syntax.Renaming.Grammar

/-!
# Texts that are refused

A text that does not compile as a whole is refused: no function is made of it, so that
nothing of it runs, and the session stays as it is and says what is wrong. Texts that stop
in the middle of a statement are refused in every session, although they are told without
looking at one: whether a text is read does not depend on the name it is read under.
-/

namespace LuaSession

open LuaSession.Script LuaSession.Library

namespace Session

variable {session : Session} {source : String}

/-- A text compiles: all of it is read as one function. -/
def Compiles (session : Session) (source : String) : Prop :=
  ∃ code, Interpreter.Reads session.store session.chunk source.toUTF8 code

/-- A text is refused: no function is made of it and none is called. Nothing changes, and
the one message says why. -/
structure Refuses (session : Session) (source : String) (failure : Failure) : Prop where
  notLoaded : session.interpreter.perform
    (Hosted.loadForHost session.setting source.toUTF8) = (.ok (.error failure), session.interpreter)
  executes : session.execute source =
    { value := (), messages := [failure.describe], session := session }

/-- A text of which no function is made is refused. -/
theorem refuses_of_notLoaded (delivered : session.IsDelivered) {failure : Failure}
    (notLoaded : session.interpreter.perform (Hosted.loadForHost session.setting source.toUTF8) =
      (.ok (.error failure), session.interpreter)) : session.Refuses source failure := by
  refine ⟨notLoaded, ?_⟩
  obtain ⟨⟨store, threads⟩, setting, isRedirected⟩ := session
  have performed : (Interpreter.mk store threads).perform (Hosted.runScript setting source.toUTF8) =
      (.ok (some (.failed failure)), ⟨store, threads⟩) := by
    rw [Hosted.runScript, Interpreter.perform_bind, notLoaded]
    rfl
  have nothing : store.world.emitted = #[] := delivered
  have same : store.delivered = store := by
    rw [Store.delivered, ← nothing]
  simp only [Session.execute, Session.run, Session.perform, Session.chunkName, performed, nothing,
    same]
  rfl

/-- Every text is refused, unless it compiles. -/
theorem refuses_or_compiles (delivered : session.IsDelivered) (source : String) :
    (∃ failure, session.Refuses source failure) ∨ session.Compiles source := by
  obtain ⟨failure, notLoaded⟩ | ⟨code, reads, -⟩ :=
    session.interpreter.perform_loadForHost session.setting source.toUTF8
  · exact .inl ⟨failure, refuses_of_notLoaded delivered notLoaded⟩
  · exact .inr ⟨code, reads⟩

/-! ## Texts that stop in the middle of a statement -/

/-- They are wrong in the same way under the session's name. -/
theorem exists_trouble_of_isIncomplete (incomplete : Syntax.isIncomplete source = true)
    (chunk : Bytes) : ∃ line what near,
      Syntax.reading source = .error (.at line what near) ∧
        Syntax.readScript chunk 0 source.toUTF8 = .error (.at line what near) := by
  obtain ⟨-, trouble, fails, early⟩ := Syntax.isIncomplete_iff.mp incomplete
  cases trouble with
  | «at» line what near =>
      refine ⟨line, what, near, fails, ?_⟩
      obtain ⟨code, _, reads, -⟩ | ⟨trouble, reads, renamed⟩ :=
        Syntax.readScript_renamed ByteArray.empty chunk 0 source.toUTF8
      · rw [fails] at reads
        cases reads
      · rw [fails] at reads
        cases reads
        exact renamed
  | tooDeep =>
      have silent : Syntax.saysIncomplete
          (Utf8.lossy (Syntax.Trouble.tooDeep.message ByteArray.empty)) = false := by
        decide +kernel
      rw [silent] at early
      cases early

theorem not_compiles_of_isIncomplete (incomplete : Syntax.isIncomplete source = true) :
    ¬session.Compiles source := by
  rintro ⟨code, read | ⟨isCompiled, _⟩⟩
  · obtain ⟨line, what, near, -, fails⟩ := exists_trouble_of_isIncomplete incomplete session.chunk
    rw [fails] at read
    cases read
  · rw [(Syntax.isIncomplete_iff.mp incomplete).1] at isCompiled
    cases isCompiled

/-- What is said of a name that has a zero byte. -/
theorem describe_badName_ne_empty (place : Nat) :
    (Failure.runtime s!"invalid name: nul byte found in provided data at position: {place}").describe
      ≠ "" := by
  have spelled : s!"invalid name: nul byte found in provided data at position: {place}".toList =
      "invalid name: nul byte found in provided data at position: ".toList ++
        Nat.toDigits 10 place := by
    simp [toString]
  have unbroken :
      '\n' ∉ s!"invalid name: nul byte found in provided data at position: {place}".toList := by
    rw [spelled]
    refine List.not_mem_append (by decide) fun member => ?_
    exact absurd (Nat.isDigit_of_mem_toDigits (by decide) (by decide) member) (by decide)
  rw [Failure.describe, Failure.cutTraceback_eq_self fun occurs =>
    unbroken (occurs.subset (List.mem_cons_self : '\n' ∈ Failure.tracebackStart))]
  intro isEmpty
  have shorter := congrArg String.toList isEmpty
  rw [spelled] at shorter
  simp at shorter

/-- They are refused. If the name of the session can name a script, the message is about
the line where the text stops; unless the name quotes a traceback, the message is not
empty. -/
theorem refuses_of_isIncomplete (delivered : session.IsDelivered)
    (incomplete : Syntax.isIncomplete source = true) :
    ∃ failure, session.Refuses source failure ∧
      ('\x00' ∉ session.chunkName.toList → ∃ line what near,
        Syntax.reading source = .error (.at line what near) ∧
        failure.describe = Failure.cutTraceback
          (Utf8.lossy ((Syntax.Trouble.at line what near).message session.chunk))) ∧
      (¬Failure.tracebackStart <:+: (session.shownChunkName ++ ":").toList →
        failure.describe ≠ "") := by
  cases zero : s!"={session.chunkName}".toUTF8.toList.findIdx? (· == 0) with
  | some place =>
      have notLoaded : session.interpreter.perform
          (Hosted.loadForHost session.setting source.toUTF8) =
            (.ok (.error (.runtime
              s!"invalid name: nul byte found in provided data at position: {place}")),
              session.interpreter) := by
        rw [chunkName] at zero
        rw [Hosted.loadForHost]
        dsimp only
        rw [zero]
        rfl
      refine ⟨_, refuses_of_notLoaded delivered notLoaded, fun noZero => ?_,
        fun _ => describe_badName_ne_empty place⟩
      rw [Syntax.findIdx?_named_eq_none_iff.mpr noZero] at zero
      cases zero
  | none =>
      have noZero := Syntax.findIdx?_named_eq_none_iff.mp zero
      obtain ⟨line, what, near, fails, wrong⟩ :=
        exists_trouble_of_isIncomplete incomplete session.chunk
      have isText : source.toUTF8.toList.head? ≠ some 0x1B := by
        simpa [Syntax.isCompiled] using (Syntax.isIncomplete_iff.mp incomplete).1
      have notLoaded := session.interpreter.perform_loadForHost_text zero isText
      rw [wrong] at notLoaded
      refine ⟨_, refuses_of_notLoaded delivered notLoaded, fun _ => ⟨line, what, near, fails, rfl⟩,
        fun unmarked isEmpty => ?_⟩
      rw [chunkName] at noZero
      have names : Failure.NamesLine session.shownChunkName line
          (Utf8.lossy ((Syntax.Trouble.at line what near).message session.chunk)) := by
        rw [chunk, Syntax.shownName_named noZero]
        exact Failure.namesLine_located _ _ _ _
      have named := names.cutTraceback unmarked
      rw [Failure.NamesLine, show Failure.cutTraceback _ = "" from isEmpty, String.toList_append,
        Failure.toList_line] at named
      simp at named

end Session

end LuaSession
