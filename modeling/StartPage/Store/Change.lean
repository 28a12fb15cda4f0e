import StartPage.Store.Basic

/-!
    Changes to a store and its folders, one at a time, and what comes of each. A change that cannot
    be made leaves the store as it was. -/

namespace StartPage

/-- A change within a folder. -/
inductive FolderChange where
  | add (e : Entry)
  | take (name : String)
  | place (name : String) (rank : Int)
  | renameEntry (name new : String)
  | rename (name : String)
  | setIcon (icon : String) (iconClass : Option String)

/-- A change to a store. A change within a folder is made to the first of its name. -/
inductive Change where
  | addFolder (name : String)
  | insert (f : Folder)
  | removeFolder (name : String)
  | placeFolder (name : String) (rank : Int)
  | within (folder : String) (change : FolderChange)

/-- What comes of a change: it is made, with the entry taken out or the name given where there is
    one; what it asks for is not there or already there; or there is a fault. -/
inductive Change.Result where
  | made
  | taken (e : Entry)
  | named (name : String)
  | refused
  | noFolder
  | failed (f : Fault)

/-- Takes over what a change makes of a value, if it makes anything. -/
def Change.settle {α : Type} (a : α) : Option α → α × Change.Result
  | some a' => (a', .made)
  | none => (a, .refused)

/-- Takes over what a change makes of a value, unless there is a fault. -/
def Change.settleFault {α : Type} (a : α) : Except Fault α → α × Change.Result
  | .ok a' => (a', .made)
  | .error f => (a, .failed f)

/-- Makes a change within a folder. -/
def Folder.change (f : Folder) : FolderChange → Folder × Change.Result
  | .add e => Change.settle f (f.add? e)
  | .take name =>
    match f.take? name with
    | some (e, f') => (f', .taken e)
    | none => (f, .refused)
  | .place name rank => Change.settleFault f (f.place name rank)
  | .renameEntry name new =>
    match f.renameEntry name new with
    | .ok (name, f') => (f', .named name)
    | .error fault => (f, .failed fault)
  | .rename name => (f.rename name, .made)
  | .setIcon icon iconClass => (f.setIcon icon iconClass, .made)

/-- Makes a change to a store. -/
def Store.change (s : Store) : Change → Store × Change.Result
  | .addFolder name => Change.settle s (s.addFolder? name)
  | .insert f => Change.settle s (s.insert? f)
  | .removeFolder name => Change.settle s (s.removeFolder? name)
  | .placeFolder name rank => Change.settleFault s (s.placeFolder name rank)
  | .within name c =>
    match s.folder? name with
    | none => (s, .noFolder)
    | some f =>
      let (f', result) := f.change c
      (s.setFolder name f', result)

end StartPage
