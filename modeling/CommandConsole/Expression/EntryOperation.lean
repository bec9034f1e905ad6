/-
The operations of dictionaries and of their views that are called by their
names.
-/
import CommandConsole.Expression.Construction
import CommandConsole.Expression.RowOperation

namespace CommandConsole.Expression

/-- Entries of a dictionary: keys, and what stands under them. -/
abbrev Entries := List (Meaning × Meaning)

/-- The key and the spare object among the arguments of an operation. -/
def keyAndSpare (key : String) (arguments : List Shared) :
    Except Problem (Meaning × Option Meaning) := do
  requireBetween key 1 2 arguments.length
  let found ← ((arguments.head?.map Shared.whole).getD .absent).asKey
  return (found, arguments[1]?.map Shared.self)

/-- The key that an operation is given which does not look for it in an empty
dictionary, and what it gives back then. -/
def anyKeyAndSpare (entries : Entries) (key : String) (arguments : List Shared) :
    Except Problem (Meaning × Option Meaning) := do
  requireBetween key 1 2 arguments.length
  if entries.isEmpty then
    return ((arguments.head?.map Shared.whole).getD .absent, arguments[1]?.map Shared.self)
  else keyAndSpare key arguments

/-- Some entries without that of a key. -/
def withoutKey (entries : Entries) (key : Meaning) : Entries :=
  entries.filter fun entry => !entry.1.same key

/-- An operation of a dictionary, of which `owner` is the cell. -/
def dictOperation (owner : Meaning) (entries : Entries) (key : String)
    (arguments : List Shared) : Except Problem Effect := do
  let noArguments : Except Problem Unit :=
    if arguments.isEmpty then .ok () else .error (takesNone "dict" key arguments.length)
  match key with
  | "keys" | "values" | "items" =>
      noArguments
      return .making (.view ("dict_" ++ key) owner)
  | "copy" =>
      noArguments
      return .making (.dict entries)
  | "clear" =>
      noArguments
      return .leaving (.dict [])
  | "popitem" =>
      noArguments
      match entries.getLast? with
      | some (k, m) => return { result := .tuple [k, m], left? := some (.dict entries.dropLast) }
      | none => throw (.told .keyError "'popitem(): dictionary is empty'")
  | "get" =>
      let (k, spare?) ← keyAndSpare key arguments
      return .making ((Meaning.valueAt? entries k).getD (spare?.getD .absent))
  | "setdefault" =>
      let (k, spare?) ← keyAndSpare key arguments
      match Meaning.valueAt? entries k with
      | some m => return .making m
      | none =>
          let m := spare?.getD .absent
          return { result := m, left? := some (.dict (Meaning.withEntry k m entries)) }
  | "pop" =>
      let (k, spare?) ← anyKeyAndSpare entries key arguments
      match Meaning.valueAt? entries k, spare? with
      | some m, _ => return { result := m, left? := some (.dict (withoutKey entries k)) }
      | none, some spare => return .making spare
      | none, none => throw (.noSuchKey k.toObject)
  | _ => return .making .absent

/-- A dictionary with one value under all keys of a row. -/
def dictFromKeys (arguments : List Shared) : Except Problem Meaning := do
  requireBetween "fromkeys" 1 2 arguments.length
  let value := (arguments[1]?.map Shared.self).getD .absent
  let keys ← ((arguments.head?.map Shared.whole).getD .absent).items
  match Meaning.unhashableIn? keys with
  | some cls => throw (.unhashable cls)
  | none =>
      return .dict (keys.foldl (fun entries k => Meaning.withEntry k value entries) [])

/-- An operation of a view of a dictionary. -/
def viewOperation (cls : String) (items : List Meaning) (key : String)
    (arguments : List Shared) : Except Problem Effect := do
  match key, arguments with
  | "isdisjoint", [m] =>
      let others ← m.whole.items
      return .making (.flag !(items.any fun x => isAmong x others))
  | _, arguments => throw (takesOne cls key arguments.length)

end CommandConsole.Expression
