import SurveyExport.Codebook.Basic

/-!
# Column groups of a wide table

A wide table has one row for each submission. Its columns come in groups: a question outside all
repeated groups has a fixed group, and every repeated group has a group of columns that are known
only from the data. The slots of a repeated group say what each of its instances adds.
-/

namespace SurveyExport

/-- What an instance of a repeated group adds to the columns of a wide table. -/
inductive WideSlot where
  /-- A cell of the instance. -/
  | cell (key : String)
  /-- The instances of a repeated group inside the instance. -/
  | instances (xpath : String) (slots : List WideSlot)

/-- Columns of a wide table that stand together. -/
inductive WideGroup where
  /-- The columns of a question. -/
  | question (xpath : String) (keys : List String)
  /-- The columns of the instances of a repeated group. -/
  | instances (xpath : String) (slots : List WideSlot)

namespace Form

/-- The keys of a question's cells in a wide table; a note has none. -/
def wideKeys (form : Form) (options : Options) (q : Question) : List String :=
  if q.type.isNote then []
  else
    match q.type with
    | .selectMultiple =>
      if options.splitSelectMultiples then (form.choiceColumns options q).map (·.key)
      else [q.xpath]
    | .geopoint => q.xpath :: pointKeys q.xpath
    | _ => [q.xpath]

mutual

/-- The slots of a node inside a repeated group. -/
def wideSlots (form : Form) (options : Options) : Node → List WideSlot
  | .group .once _ _ _ children => wideSlotsOfAll form options children
  | .group .repeated _ xpath _ children => [.instances xpath (wideSlotsOfAll form options children)]
  | .question q => (form.wideKeys options q).map .cell

/-- The slots of nodes inside a repeated group. -/
def wideSlotsOfAll (form : Form) (options : Options) : List Node → List WideSlot
  | [] => []
  | n :: rest => wideSlots form options n ++ wideSlotsOfAll form options rest

end

mutual

/-- The groups of a node; questions inside a repeated group have none of their own. -/
def wideGroups (form : Form) (options : Options) (inside : Bool) : Node → List WideGroup
  | .group .once _ _ _ children => wideGroupsOfAll form options inside children
  | .group .repeated _ xpath _ children =>
    .instances xpath (wideSlotsOfAll form options children) ::
      wideGroupsOfAll form options true children
  | .question q =>
    let keys := form.wideKeys options q
    if inside || keys.isEmpty then [] else [.question q.xpath keys]

/-- The groups of nodes. -/
def wideGroupsOfAll (form : Form) (options : Options) (inside : Bool) : List Node → List WideGroup
  | [] => []
  | n :: rest => wideGroups form options inside n ++ wideGroupsOfAll form options inside rest

end

end Form

namespace WideGroup

/-- The column groups of a form, in declared order. -/
def ofForm (form : Form) (options : Options) : List WideGroup :=
  form.wideGroupsOfAll options false form.children

/-- The xpath of the question or of the repeated group. -/
def xpath : WideGroup → String
  | question xpath _ => xpath
  | instances xpath _ => xpath

/-- The slots of the repeated group with an xpath. -/
def slots? (groups : List WideGroup) (xpath : String) : Option (List WideSlot) :=
  groups.findSome? fun g ↦
    match g with
    | instances xpath' slots => if xpath' = xpath then some slots else none
    | question .. => none

/-- Whether the options keep a group: its xpath begins with one of the texts they list. -/
def isKept (options : Options) (g : WideGroup) : Bool :=
  match options.columns with
  | some wanted => wanted.any fun w ↦ Text.beginsWith w g.xpath
  | none => true

end WideGroup

end SurveyExport
