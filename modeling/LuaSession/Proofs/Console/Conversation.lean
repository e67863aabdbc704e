import LuaSession.Console
import LuaSession.Proofs.Prompt.Lines
import Mathlib.Tactic.ByContra

/-!
# What is done with the lines of a conversation

A conversation goes through the lines of its input once. Every line it reads is
a command or belongs to exactly one snippet, and the snippets are executed in
the order in which they were typed. When a text is incomplete is left open.
-/

namespace LuaSession

namespace Prompt

/-- Something that is done about lines while the conversation goes on. -/
inductive Deed where
  /-- A command to list the names. -/
  | listNames (line : String)
  /-- Lines that are run together. -/
  | run (lines : List String)
  deriving DecidableEq, Repr

/-- How a conversation ends. -/
inductive Parting where
  /-- A line tells it to. -/
  | quit (line : String)
  /-- The lines end, and some of them are still held. -/
  | leftover (lines : List String)
  /-- The lines end, and nothing is held. -/
  | done
  deriving DecidableEq, Repr

/-- What a conversation makes of its lines, and the lines that it leaves unread. -/
structure Course where
  deeds : List Deed
  parting : Parting
  unread : List String
  deriving DecidableEq, Repr

/-- The lines that a deed is about. -/
def Deed.lines : Deed → List String
  | .listNames line => [line]
  | .run lines => lines

/-- The lines that a parting is about. -/
def Parting.lines : Parting → List String
  | .quit line => [line]
  | .leftover lines => lines
  | .done => []

/-- The snippet that a deed runs. -/
def Deed.snippet? : Deed → Option String
  | .listNames _ => none
  | .run lines => some (String.join lines)

/-- The snippet that a parting runs. -/
def Parting.snippet? : Parting → Option String
  | .leftover lines => some (String.join lines)
  | _ => none

/-- The snippets of a course, in order. -/
def Course.snippets (course : Course) : List String :=
  course.deeds.filterMap Deed.snippet? ++ course.parting.snippet?.toList

/-- A course with a deed before it. -/
def Course.after (deed : Deed) (course : Course) : Course :=
  { course with deeds := deed :: course.deeds }

/-- The course of a conversation when some lines are held. -/
def course (isIncomplete : String → Bool) : (held : List String) → List String → Course
  | [], [] => ⟨[], .done, []⟩
  | held, [] => ⟨[], .leftover held, []⟩
  | held, line :: rest =>
      match react isIncomplete (String.join held) line with
      | .quit => ⟨[], .quit line, rest⟩
      | .listNames => (course isIncomplete [] rest).after (.listNames line)
      | .hold _ => course isIncomplete (held ++ [line]) rest
      | .run _ => (course isIncomplete [] rest).after (.run (held ++ [line]))

/-- Is a line a command, if it is read while nothing is held? -/
def IsCommand (line : String) : Prop :=
  Text.trim line = quitCommand ∨ Text.trim line = namesCommand

/-- Lines that are held one after the other: the first is no command, and every
shorter run of them from the first on is incomplete. -/
structure Accumulates (isIncomplete : String → Bool) (lines : List String) : Prop where
  begun : ∃ first rest, lines = first :: rest ∧ ¬IsCommand first
  unfinished : ∀ start, start <+: lines → start ≠ [] → start ≠ lines →
    isIncomplete (String.join start) = true

/-- A deed that its lines call for. -/
def Deed.Fits (isIncomplete : String → Bool) : Deed → Prop
  | .listNames line => Text.trim line = namesCommand
  | .run lines => Accumulates isIncomplete lines ∧ isIncomplete (String.join lines) = false

/-- A parting that its lines call for. -/
def Parting.Fits (isIncomplete : String → Bool) : Parting → Prop
  | .quit line => Text.trim line = quitCommand
  | .leftover lines => Accumulates isIncomplete lines ∧ isIncomplete (String.join lines) = true
  | .done => True

/-- A course goes through lines: in order they are those of its deeds and of its
parting, no line is left unread unless a command ended the conversation, and
everything that is done fits. A line that reads like a command but comes later in
a snippet belongs to the snippet. -/
structure Course.GoesThrough (isIncomplete : String → Bool) (lines : List String)
    (course : Course) : Prop where
  spelled : lines = course.deeds.flatMap Deed.lines ++ course.parting.lines ++ course.unread
  exhausted : course.unread ≠ [] → ∃ line, course.parting = .quit line
  deedsFit : ∀ deed ∈ course.deeds, deed.Fits isIncomplete
  partingFits : course.parting.Fits isIncomplete

/-- Lines that hold something spell the empty text only if there are none. -/
theorem isEmpty_join {lines : List String} (nonempty : ∀ line ∈ lines, line ≠ "") :
    (String.join lines).isEmpty = decide (lines = []) := by
  cases lines with
  | nil => rfl
  | cons first rest =>
      have notEmpty : first ≠ "" := nonempty first List.mem_cons_self
      simp [notEmpty]

/-- Lines that hold something do so with one more. -/
theorem nonempty_concat {held : List String} {line : String}
    (heldNonempty : ∀ line ∈ held, line ≠ "") (nonempty : line ≠ "") :
    ∀ other ∈ held ++ [line], other ≠ "" := by
  intro other member
  rcases List.mem_append.mp member with member | member
  · exact heldNonempty other member
  · exact List.mem_singleton.mp member ▸ nonempty

/-- A line is a command only if nothing is held; else it joins what is held. -/
theorem react_join (isIncomplete : String → Bool) {held : List String}
    (nonempty : ∀ line ∈ held, line ≠ "") (line : String) :
    react isIncomplete (String.join held) line =
      if held = [] ∧ Text.trim line = quitCommand then .quit
      else if held = [] ∧ Text.trim line = namesCommand then .listNames
      else if isIncomplete (String.join (held ++ [line])) then
        .hold (String.join (held ++ [line]))
      else .run (String.join (held ++ [line])) := by
  simp [react, isEmpty_join nonempty]

/-- What a conversation does about its next line. -/
theorem course_cons (isIncomplete : String → Bool) {held : List String}
    (nonempty : ∀ line ∈ held, line ≠ "") (line : String) (rest : List String) :
    course isIncomplete held (line :: rest) =
      if held = [] ∧ Text.trim line = quitCommand then ⟨[], .quit line, rest⟩
      else if held = [] ∧ Text.trim line = namesCommand then
        (course isIncomplete [] rest).after (.listNames line)
      else if isIncomplete (String.join (held ++ [line])) then
        course isIncomplete (held ++ [line]) rest
      else (course isIncomplete [] rest).after (.run (held ++ [line])) := by
  rw [course, react_join isIncomplete nonempty]
  split_ifs <;> rfl

/-- What is held can grow: a line joins incomplete lines, or begins as no command. -/
theorem Accumulates.concat {isIncomplete : String → Bool} {held : List String} {line : String}
    (accumulates : held ≠ [] →
      Accumulates isIncomplete held ∧ isIncomplete (String.join held) = true)
    (begun : held = [] → ¬IsCommand line) : Accumulates isIncomplete (held ++ [line]) := by
  cases held with
  | nil =>
      refine ⟨⟨line, [], rfl, begun rfl⟩, ?_⟩
      intro start isPrefix notEmpty proper
      rcases List.prefix_concat_iff.mp isPrefix with same | shorter
      · exact absurd same proper
      · exact absurd (List.prefix_nil.mp shorter) notEmpty
  | cons first rest =>
      obtain ⟨⟨⟨_, _, same, notCommand⟩, unfinished⟩, incomplete⟩ :=
        accumulates (List.cons_ne_nil first rest)
      cases same
      refine ⟨⟨first, rest ++ [line], rfl, notCommand⟩, ?_⟩
      intro start isPrefix notEmpty proper
      rcases List.prefix_concat_iff.mp isPrefix with same | shorter
      · exact absurd same proper
      · by_cases whole : start = first :: rest
        · rw [whole]
          exact incomplete
        · exact unfinished start shorter notEmpty whole

/-- A course that goes through some lines goes through more of them when a deed
about these comes before it. -/
theorem Course.GoesThrough.after {isIncomplete : String → Bool} {lines : List String}
    {course : Course} (goesThrough : course.GoesThrough isIncomplete lines) (deed : Deed)
    (fits : deed.Fits isIncomplete) :
    (course.after deed).GoesThrough isIncomplete (deed.lines ++ lines) := by
  obtain ⟨spelled, exhausted, deedsFit, partingFits⟩ := goesThrough
  refine ⟨?_, exhausted, ?_, partingFits⟩
  · simp only [Course.after, List.flatMap_cons, List.append_assoc]
    rw [List.append_assoc] at spelled
    rw [← spelled]
  · intro other member
    rcases List.mem_cons.mp member with rfl | member
    · exact fits
    · exact deedsFit other member

/-- The course of a conversation goes through the lines that are held and those
to come. -/
theorem course_goesThrough (isIncomplete : String → Bool) (lines : List String) :
    ∀ held : List String, (∀ line ∈ held, line ≠ "") → (∀ line ∈ lines, line ≠ "") →
      (held ≠ [] → Accumulates isIncomplete held ∧ isIncomplete (String.join held) = true) →
      (course isIncomplete held lines).GoesThrough isIncomplete (held ++ lines) := by
  induction lines with
  | nil =>
      intro held _ _ accumulates
      cases held with
      | nil => exact ⟨rfl, by simp [course], by simp [course], trivial⟩
      | cons first rest =>
          exact ⟨by simp [course, Parting.lines], by simp [course], by simp [course],
            accumulates (List.cons_ne_nil first rest)⟩
  | cons line rest ih =>
      intro held heldNonempty nonempty accumulates
      have later : ∀ line ∈ rest, line ≠ "" :=
        fun other member => nonempty other (List.mem_cons_of_mem line member)
      have grown := nonempty_concat heldNonempty (nonempty line List.mem_cons_self)
      have fresh : (course isIncomplete [] rest).GoesThrough isIncomplete rest :=
        ih [] (by simp) later fun notEmpty => absurd rfl notEmpty
      rw [course_cons isIncomplete heldNonempty, List.append_cons]
      split
      next command => exact ⟨by simp [command.1, Parting.lines], fun _ => ⟨line, rfl⟩, by simp,
        command.2⟩
      next noQuit =>
        split
        next command =>
          rw [command.1, List.nil_append]
          exact fresh.after (.listNames line) command.2
        next noNames =>
          have joined : Accumulates isIncomplete (held ++ [line]) := by
            apply Accumulates.concat accumulates
            intro isEmpty command
            rcases command with quits | lists
            · exact noQuit ⟨isEmpty, quits⟩
            · exact noNames ⟨isEmpty, lists⟩
          split
          next incomplete => exact ih (held ++ [line]) grown later fun _ => ⟨joined, incomplete⟩
          next complete =>
            exact fresh.after (.run (held ++ [line])) ⟨joined, by simpa using complete⟩

/-- Lines that accumulate are held or run together. -/
theorem course_append (isIncomplete : String → Bool) (rest : List String) :
    ∀ block held : List String, block ≠ [] → (∀ line ∈ held ++ block, line ≠ "") →
      Accumulates isIncomplete (held ++ block) →
      course isIncomplete held (block ++ rest) =
        if isIncomplete (String.join (held ++ block)) then
          course isIncomplete (held ++ block) rest
        else (course isIncomplete [] rest).after (.run (held ++ block)) := by
  intro block
  induction block with
  | nil =>
      intro held notEmpty
      exact absurd rfl notEmpty
  | cons line block ih =>
      intro held _ nonempty accumulates
      have heldNonempty : ∀ line ∈ held, line ≠ "" :=
        fun other member => nonempty other (List.mem_append_left _ member)
      have noCommand : held = [] → ¬IsCommand line := by
        intro isEmpty
        obtain ⟨first, others, same, notCommand⟩ := accumulates.begun
        rw [isEmpty, List.nil_append] at same
        rw [(List.cons.inj same).1]
        exact notCommand
      rw [List.cons_append, course_cons isIncomplete heldNonempty,
        if_neg fun command => noCommand command.1 (.inl command.2),
        if_neg fun command => noCommand command.1 (.inr command.2)]
      cases block with
      | nil => rfl
      | cons next others =>
          have incomplete : isIncomplete (String.join (held ++ [line])) = true := by
            apply accumulates.unfinished
            · exact ⟨next :: others, by simp⟩
            · simp
            · simp
          rw [List.append_cons held line (next :: others)] at nonempty accumulates ⊢
          rw [if_pos incomplete, ih (held ++ [line]) (List.cons_ne_nil next others) nonempty
            accumulates]

/-- Only one course goes through given lines. -/
theorem Course.GoesThrough.eq_course {isIncomplete : String → Bool} {lines : List String}
    {other : Course} (goesThrough : other.GoesThrough isIncomplete lines)
    (nonempty : ∀ line ∈ lines, line ≠ "") : other = course isIncomplete [] lines := by
  obtain ⟨deeds, parting, unread⟩ := other
  induction deeds generalizing lines with
  | nil =>
      obtain ⟨spelled, exhausted, -, partingFits⟩ := goesThrough
      subst spelled
      cases parting with
      | quit line =>
          rw [List.flatMap_nil, List.nil_append, Parting.lines, List.singleton_append,
            course_cons isIncomplete (by simp), if_pos ⟨rfl, partingFits⟩]
      | leftover held =>
          have readAll : unread = [] := by
            by_contra left
            obtain ⟨line, quits⟩ := exhausted left
            cases quits
          subst readAll
          obtain ⟨accumulates, incomplete⟩ := partingFits
          obtain ⟨first, rest, same, _⟩ := accumulates.begun
          have notEmpty : held ≠ [] := by
            rw [same]
            exact List.cons_ne_nil first rest
          simp only [List.flatMap_nil, List.nil_append, Parting.lines] at nonempty ⊢
          rw [course_append isIncomplete [] held [] notEmpty (by simpa using nonempty)
            accumulates, List.nil_append, if_pos incomplete, same, course]
          simp
      | done =>
          have readAll : unread = [] := by
            by_contra left
            obtain ⟨line, quits⟩ := exhausted left
            cases quits
          subst readAll
          rfl
  | cons deed deeds ih =>
      obtain ⟨spelled, exhausted, deedsFit, partingFits⟩ := goesThrough
      have laterFit : ∀ deed ∈ deeds, deed.Fits isIncomplete :=
        fun other member => deedsFit other (List.mem_cons_of_mem deed member)
      have fits : deed.Fits isIncomplete := deedsFit deed List.mem_cons_self
      simp only [List.flatMap_cons, List.append_assoc] at spelled
      subst spelled
      have later := ih (fun line member => nonempty line (List.mem_append_right _ member))
        ⟨by rw [List.append_assoc], exhausted, laterFit, partingFits⟩
      cases deed with
      | listNames line =>
          have lists : Text.trim line ≠ quitCommand := by
            rw [show Text.trim line = namesCommand from fits]
            decide
          rw [Deed.lines, List.singleton_append, course_cons isIncomplete (by simp),
            if_neg fun command => lists command.2, if_pos ⟨rfl, fits⟩, ← later]
          rfl
      | run block =>
          obtain ⟨accumulates, complete⟩ := fits
          obtain ⟨first, rest, same, _⟩ := accumulates.begun
          have notEmpty : block ≠ [] := by
            rw [same]
            exact List.cons_ne_nil first rest
          rw [Deed.lines, course_append isIncomplete _ block [] notEmpty ?_ accumulates,
            List.nil_append, if_neg (by simp [complete]), ← later]
          · rfl
          · exact fun line member => nonempty line (List.mem_append_left _ member)

end Prompt

namespace Console

open Prompt

/-- Something that a console does in a conversation. -/
inductive Move where
  | ask (held : String)
  | listNames
  | execute (snippet : String)
  deriving DecidableEq, Repr

/-- The snippet that a move executes. -/
def Move.snippet? : Move → Option String
  | .execute snippet => some snippet
  | _ => none

/-- The console after a move. -/
def act (isInteractive : Bool) (console : Console) : Move → Console
  | .ask held => console.ask isInteractive held
  | .listNames => console.listNames
  | .execute snippet => console.execute snippet

/-- To get lines, each is asked for with those before it. -/
def asks : (held : String) → List String → List Move
  | _, [] => []
  | held, line :: rest => .ask held :: asks (held ++ line) rest

@[simp] theorem asks_concat (held : String) (lines : List String) (line : String) :
    asks held (lines ++ [line]) = asks held lines ++ [.ask (held ++ String.join lines)] := by
  induction lines generalizing held with
  | nil => simp [asks]
  | cons first rest ih => simp [asks, ih, String.append_assoc]

/-- Asking executes nothing. -/
@[simp] theorem filterMap_snippet?_asks (held : String) (lines : List String) :
    (asks held lines).filterMap Move.snippet? = [] := by
  induction lines generalizing held with
  | nil => rfl
  | cons first rest ih => exact ih (held ++ first)

/-- The moves of a deed. -/
def deedMoves : Deed → List Move
  | .listNames _ => [.ask "", .listNames]
  | .run lines => asks "" lines ++ [.execute (String.join lines)]

/-- The moves of a parting: after the last line another one is asked for. -/
def partingMoves : Parting → List Move
  | .quit _ => [.ask ""]
  | .leftover lines => asks "" lines ++ [.ask (String.join lines), .execute (String.join lines)]
  | .done => [.ask ""]

/-- The moves of a course. -/
def moves (course : Course) : List Move :=
  course.deeds.flatMap deedMoves ++ partingMoves course.parting

/-- What is held after a parting, if more lines may follow. -/
def held? : Parting → Option (List String)
  | .quit _ => none
  | .leftover lines => some lines
  | .done => some []

/-- The moves of a course up to its last line. -/
def progress (course : Course) : List Move :=
  course.deeds.flatMap deedMoves ++
    match course.parting with
    | .quit _ => [.ask ""]
    | .leftover lines => asks "" lines
    | .done => []

theorem progress_after (deed : Deed) (course : Course) :
    progress (course.after deed) = deedMoves deed ++ progress course := by
  simp [progress, Course.after]

/-- Talking about lines and then about others is to make the moves of the course of the
former, and then to talk about the others with what is held by then. What is held at
first has been asked for already. -/
theorem converse_append (isIncomplete : String → Bool) (isInteractive : Bool)
    (rest : List (Except ReadError String)) (lines : List String) :
    ∀ (held : List String) (console : Console),
      (∀ line ∈ held, line ≠ "") → (∀ line ∈ lines, line ≠ "") →
      converse isIncomplete isInteractive (String.join held) (lines.map .ok ++ rest)
          ((asks "" held).foldl (act isInteractive) console) =
        match held? (course isIncomplete held lines).parting with
        | some left => converse isIncomplete isInteractive (String.join left) rest
            ((progress (course isIncomplete held lines)).foldl (act isInteractive) console)
        | none =>
            (none, (progress (course isIncomplete held lines)).foldl (act isInteractive) console) := by
  induction lines with
  | nil =>
      intro held console _ _
      cases held <;> simp [course, held?, progress, asks]
  | cons line lines ih =>
      intro held console heldNonempty nonempty
      have later : ∀ line ∈ lines, line ≠ "" :=
        fun other member => nonempty other (List.mem_cons_of_mem line member)
      have grown := nonempty_concat heldNonempty (nonempty line List.mem_cons_self)
      have fresh (deed : Deed) (console : Console) :
          converse isIncomplete isInteractive "" (lines.map .ok ++ rest) console =
            match held? ((course isIncomplete [] lines).after deed).parting with
            | some left => converse isIncomplete isInteractive (String.join left) rest
                ((progress (course isIncomplete [] lines)).foldl (act isInteractive) console)
            | none =>
                (none, (progress (course isIncomplete [] lines)).foldl (act isInteractive) console) :=
        ih [] console (by simp) later
      have asked : ((asks "" held).foldl (act isInteractive) console).ask isInteractive
          (String.join held) = (asks "" (held ++ [line])).foldl (act isInteractive) console := by
        simp [act]
      rw [List.map_cons, List.cons_append, converse, asked, takeLine,
        react_join isIncomplete heldNonempty, course_cons isIncomplete heldNonempty]
      split_ifs with quits lists incomplete
      · simp [quits.1, held?, progress, asks]
      · rw [progress_after, List.foldl_append, lists.1]
        exact fresh (.listNames line) _
      · exact ih (held ++ [line]) console grown later
      · rw [progress_after, List.foldl_append, deedMoves, List.foldl_append]
        exact fresh (.run (held ++ [line])) _

/-- Talking about lines is to make the moves of their course. -/
theorem converse_eq_foldl_act (isIncomplete : String → Bool) (isInteractive : Bool)
    {lines : List String} (nonempty : ∀ line ∈ lines, line ≠ "") (console : Console) :
    converse isIncomplete isInteractive "" (lines.map .ok) console =
      (none, (moves (course isIncomplete [] lines)).foldl (act isInteractive) console) := by
  have goesThrough := course_goesThrough isIncomplete lines [] (by simp) nonempty (by simp)
  have spelled := converse_append isIncomplete isInteractive [] lines [] console (by simp) nonempty
  rw [List.append_nil] at spelled
  refine spelled.trans ?_
  generalize course isIncomplete [] lines = course at goesThrough
  obtain ⟨deeds, parting, unread⟩ := course
  cases parting with
  | quit line => rfl
  | done => simp [held?, progress, moves, partingMoves, converse, finish, act]
  | leftover left =>
      obtain ⟨⟨⟨first, rest, same, -⟩, -⟩, -⟩ := goesThrough.partingFits
      have leftNonempty : ∀ line ∈ left, line ≠ "" := by
        intro line member
        refine nonempty line ?_
        have whole := goesThrough.spelled
        rw [List.nil_append] at whole
        rw [whole]
        exact List.mem_append_left _ (List.mem_append_right _ member)
      have notEmpty : left ≠ [] := same ▸ List.cons_ne_nil first rest
      simp [held?, progress, moves, partingMoves, converse, finish, act, isEmpty_join leftNonempty,
        notEmpty]

/-- The moves of a course execute its snippets and nothing else. -/
theorem filterMap_snippet?_moves (course : Course) :
    (moves course).filterMap Move.snippet? = course.snippets := by
  obtain ⟨deeds, parting, unread⟩ := course
  induction deeds with
  | nil =>
      cases parting <;>
        simp [moves, partingMoves, Course.snippets, List.filterMap_cons, Move.snippet?,
          Parting.snippet?]
  | cons deed deeds ih =>
      have executed : (deedMoves deed).filterMap Move.snippet? = deed.snippet?.toList := by
        cases deed <;> simp [deedMoves, List.filterMap_cons, Move.snippet?, Deed.snippet?]
      simp only [moves, Course.snippets, List.flatMap_cons, List.append_assoc,
        List.filterMap_append, executed] at ih ⊢
      rw [ih]
      cases deed <;> simp [List.filterMap_cons, Deed.snippet?]

/-- Whatever counts as incomplete: an input is split into lines, exactly one
course goes through these, and talking about the input is to make the moves of
that course, which execute its snippets and nothing else. -/
theorem repl_goes_through_lines (isIncomplete : String → Bool) (text : String) :
    ∃ lines course, LinesOf text lines ∧ course.GoesThrough isIncomplete lines ∧
      (∀ other : Course, other.GoesThrough isIncomplete lines → other = course) ∧
      (moves course).filterMap Move.snippet? = course.snippets ∧
      ∀ (isInteractive : Bool) (console : Console),
        console.repl isInteractive text.toUTF8 isIncomplete =
          (none, (moves course).foldl (act isInteractive) console) := by
  obtain ⟨lines, linesOf, read⟩ := lines_toUTF8 text
  refine ⟨lines, course isIncomplete [] lines, linesOf, ?_, ?_,
    filterMap_snippet?_moves _, ?_⟩
  · exact course_goesThrough isIncomplete lines [] (by simp) linesOf.nonempty
      (fun notEmpty => absurd rfl notEmpty)
  · intro other goesThrough
    exact goesThrough.eq_course linesOf.nonempty
  · intro isInteractive console
    rw [repl, read]
    exact converse_eq_foldl_act isIncomplete isInteractive linesOf.nonempty console

end Console

end LuaSession
