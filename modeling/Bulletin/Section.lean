namespace Bulletin

inductive Section
  | title
  | description
  | tag
  deriving DecidableEq, Repr

namespace Section

/-- The sections in the order in which a template line is offered to them. -/
def all : List Section :=
  [title, description, tag]

def token : Section → String
  | title => "TITLE:"
  | description => "DESCRIPTION:"
  | tag => "TAG:"

def key : Section → String
  | title => "title"
  | description => "description"
  | tag => "tag"

def ofKey? (key : String) : Option Section :=
  all.find? (·.key = key)

/-- The rest of a line that begins with the section's token, in any mixture of ASCII cases. -/
def opening? (kind : Section) (line : List Char) : Option (List Char) :=
  let word := kind.token.toList
  if (line.take word.length).map Char.toLower = word.map Char.toLower then
    some (line.drop word.length)
  else
    none

theorem mem_all (kind : Section) : kind ∈ all := by
  cases kind <;> simp [all]

end Section

structure PerSection (α : Type) where
  title : α
  description : α
  tag : α
  deriving DecidableEq, Repr

namespace PerSection

variable {α β : Type}

def ofFn (f : Section → α) : PerSection α :=
  ⟨f .title, f .description, f .tag⟩

def get (p : PerSection α) : Section → α
  | .title => p.title
  | .description => p.description
  | .tag => p.tag

def set (p : PerSection α) (kind : Section) (a : α) : PerSection α :=
  match kind with
  | .title => { p with title := a }
  | .description => { p with description := a }
  | .tag => { p with tag := a }

def map (f : α → β) (p : PerSection α) : PerSection β :=
  ⟨f p.title, f p.description, f p.tag⟩

def toList (p : PerSection α) : List α :=
  [p.title, p.description, p.tag]

@[ext]
theorem ext_get {p q : PerSection α} (h : ∀ kind, p.get kind = q.get kind) : p = q := by
  cases p
  cases q
  simpa [get] using And.intro (h .title) (And.intro (h .description) (h .tag))

@[simp]
theorem get_ofFn (f : Section → α) (kind : Section) : (ofFn f).get kind = f kind := by
  cases kind <;> rfl

@[simp]
theorem get_map (f : α → β) (p : PerSection α) (kind : Section) :
    (p.map f).get kind = f (p.get kind) := by
  cases kind <;> rfl

theorem get_set (p : PerSection α) (kind kind' : Section) (a : α) :
    (p.set kind a).get kind' = if kind' = kind then a else p.get kind' := by
  cases kind <;> cases kind' <;> rfl

@[simp]
theorem get_set_self (p : PerSection α) (kind : Section) (a : α) :
    (p.set kind a).get kind = a := by
  simp [get_set]

theorem toList_eq_map_get (p : PerSection α) : p.toList = Section.all.map p.get :=
  rfl

end PerSection

end Bulletin
