/-!
# Paths

A path is the text that was given for it. Separators at its end, and single dots
after one, do not count when its last name is looked for.
-/

namespace MarkupTemplate.Command.Path

/-- Drops the separators and single dots at the end of a path, which is given last
character first. -/
def dropSeparators : List Char → List Char
  | '/' :: rest => dropSeparators rest
  | '.' :: '/' :: rest => dropSeparators rest
  | rest => rest

/-- The stem of a path with all that stands before it, last character first, and
the extension of its last name. A name with no dot, or with a dot only at its
start, has no extension. -/
def split (path : String) : List Char × Option String :=
  let reversed := dropSeparators path.toList.reverse
  let name := reversed.takeWhile (· != '/')
  let extension := name.takeWhile (· != '.')
  match name.drop extension.length with
  | [] | [_] => (reversed, none)
  | _ :: stem =>
      if extension.isEmpty && stem == ['.'] then (reversed, none)
      else (reversed.drop (extension.length + 1), some (String.ofList extension.reverse))

/-- The extension of a path's last name, without its dot. -/
def extension? (path : String) : Option String := (split path).2

/-- The path of the same stem with another extension. -/
def withExtension (path extension : String) : String :=
  String.ofList (split path).1.reverse ++ "." ++ extension

/-- The path of a name inside a folder. -/
def join (folder name : String) : String :=
  if folder.toList.getLast? = some '/' then folder ++ name else folder ++ "/" ++ name

end MarkupTemplate.Command.Path
