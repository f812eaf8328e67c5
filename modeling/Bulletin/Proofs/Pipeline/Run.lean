import Bulletin.Proofs.Layout
import Bulletin.Proofs.Pipeline
import Bulletin.Proofs.Text.Base64

namespace Bulletin

open Directory Sandbox

namespace Layout

def authored (l : Layout) : List Location :=
  [Path.location l.template, Path.location l.readme, Path.location l.changelog]

def owned (l : Layout) : List Location :=
  Path.location l.artifact :: l.authored

end Layout

inductive Action
  | compose (context : Context)
  | emit (sink : String)
  | edit (files : Directory)

inductive Event
  | composed (outcome : Except ComposeError Composition)
  | emitted (sink : String) (outcome : Except EmitError Output)
  | edited
  deriving DecidableEq

namespace Action

/-- A sink is none of the files of the repository, and an edit is one of the files that are edited
by hand. -/
def IsAllowed (l : Layout) (d : Directory) : Action → Prop
  | compose _ => True
  | emit sink => ∀ location, d.target sink = .ok location → location ∉ l.owned
  | edit files => ∀ location ∉ l.authored, entryAt? files location = entryAt? d location

def perform (l : Layout) : Action → Sandbox Event
  | compose context => return .composed (← Bulletin.compose l context)
  | emit sink => return .emitted sink (← Bulletin.emit l.artifact sink)
  | edit files => fun w ↦ (.edited, { w with files })

end Action

namespace Event

def stored? : Event → Option Release
  | composed (.ok ⟨r, _, true⟩) => some r
  | _ => none

def outputsTo? (location : Location) : Event → Option Output
  | emitted sink (.ok o) => if Path.location sink = location then some o else none
  | _ => none

end Event

def lastStored? (events : List Event) : Option Release :=
  events.reverse.findSome? Event.stored?

def linesTo (location : Location) (events : List Event) : List String :=
  ((events.filterMap (Event.outputsTo? location)).flatMap Output.lines).map (· ++ "\n")

/-- The events of allowed actions, one after another, and the world after them. -/
inductive Run (l : Layout) (start : World) : List Event → World → Prop
  | nil : Run l start [] start
  | snoc {events : List Event} {w : World} (h : Run l start events w) (action : Action)
      (ha : action.IsAllowed l w.files) :
      Run l start (events ++ [((action.perform l).run w).1]) ((action.perform l).run w).2

/-- The outputs tell of a release: its title and its tag without the blanks around them, and its
description in base64. -/
def Output.TellsOf (o : Output) (r : Release) : Prop :=
  o.title = Text.trimmed r.title ∧ o.tag = Text.trimmed r.tag ∧
    Base64.decode? o.descriptionBase64.toList = some (Utf8.encode r.description)

/-- Lines have been appended to the file at a location, which is there if there are any. -/
structure Grows (location : Location) (lines : List String) (d d' : Directory) : Prop where
  bytesAt_eq : bytesAt d' location = bytesAt d location ++ lines.flatMap Utf8.encode
  isFileAt : IsFileAt d location ∨ lines ≠ [] → IsFileAt d' location

namespace Grows

variable {location : Location} {lines lines' : List String} {d d' d'' : Directory}

theorem refl (location : Location) (d : Directory) : Grows location [] d d :=
  ⟨by simp, by simp⟩

theorem trans (h : Grows location lines d d') (h' : Grows location lines' d' d'') :
    Grows location (lines ++ lines') d d'' := by
  refine ⟨?_, fun hor ↦ h'.isFileAt ?_⟩
  · rw [h'.bytesAt_eq, h.bytesAt_eq, List.flatMap_append, List.append_assoc]
  · by_cases hl : lines' = []
    · refine Or.inl (h.isFileAt ?_)
      simpa [hl] using hor
    · exact Or.inr hl

theorem of_append {sink : String} {o : Output}
    (h : d.append sink (Utf8.encode o.text) = .ok d') :
    Grows (Path.location sink) (o.lines.map (· ++ "\n")) d d' := by
  have he : entryAt? d' (Path.location sink) = some (.file
      (bytesAt d (Path.location sink) ++ (o.lines.map (· ++ "\n")).flatMap Utf8.encode)) := by
    rw [entryAt?_append h, if_pos rfl, Output.text, Utf8.encode_join]
  exact ⟨bytesAt_of_entryAt? he, fun _ ↦ ⟨_, he⟩⟩

end Grows

/-- What holds after every run: of the sinks, of the artifact and of all that has been emitted. -/
structure Invariant (l : Layout) (start : Directory) (events : List Event) (d : Directory) :
    Prop where
  sinks : ∀ location ∉ l.owned, Grows location (linesTo location events) start d
  unowned : ∀ location, linesTo location events ≠ [] → location ∉ l.owned
  artifact : ∀ r, lastStored? events = some r →
    entryAt? d (Path.location l.artifact) = some (.file (Artifact.encode r))
  emissions : ∀ before sink o after r, events = before ++ .emitted sink (.ok o) :: after →
    lastStored? before = some r → o.TellsOf r

namespace Invariant

variable {l : Layout} {start d d' : Directory} {events : List Event} {event : Event}

theorem nil (l : Layout) (start : Directory) : Invariant l start [] start where
  sinks _ _ := .refl _ _
  unowned _ hl := absurd rfl hl
  artifact _ hr := by cases hr
  emissions _ _ _ _ _ he := by simp at he

end Invariant

namespace Run

variable {l : Layout} {start w : World} {events : List Event}

end Run

end Bulletin
