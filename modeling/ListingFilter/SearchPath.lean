import ListingFilter.Text.Substring
/-!
# The search path of scripts

A script of a checkout finds its packages if the root of the checkout, its package folder and the
folder of the script itself are on the search path. Folders that are on the path already keep their
place.
-/

namespace ListingFilter

/-- A folder of a checkout, by the names from the root down to it. -/
abbrev Folder := List String

/-- A checkout: the text of its root and its folders. -/
structure Checkout where
  root : String
  folders : List Folder
  deriving DecidableEq, Repr

namespace Checkout

/-- The folder that holds the packages. -/
def packageFolder : Folder := ["backend"]

/-- A checkout with the usual folders. -/
def usual (root : String) : Checkout :=
  { root := root
    folders :=
      [[], packageFolder, packageFolder ++ ["tools"], packageFolder ++ ["vulnmanage"], ["config"],
        ["tests"]] }

/-- The text of a folder. -/
def folderText (checkout : Checkout) (folder : Folder) : String :=
  String.intercalate "/" (checkout.root :: folder)

/-- The names on the way to a location, where a dot stands for the same folder and two dots for the
one above. -/
def normalize (names : List String) : Folder :=
  names.foldl (fun folder name =>
    if name = "" || name = "." then folder
    else if name = ".." then folder.dropLast
    else folder ++ [name]) []

/-- The names in the text of a location. -/
def location (text : String) : Folder :=
  normalize ((Text.splitOn '/' text.toList).map String.ofList)

/-- The folder of a script: its location if that is a folder, else the folder above. -/
def scriptFolder (checkout : Checkout) (script : String) : Folder :=
  let place := location script
  if checkout.folders.contains place then place else place.dropLast

/-- The folders that a script needs on its search path, each once. -/
def neededFolders (checkout : Checkout) (script : String) : List Folder :=
  [[], packageFolder, checkout.scriptFolder script].eraseDups

/-- The search path with `entry`, at its start or at its end, unless it is there already. -/
def extend (prepend : Bool) (path : List String) (entry : String) : List String :=
  if path.contains entry then path else if prepend then entry :: path else path ++ [entry]

/-- The search path with the folders that a script needs. -/
def searchPath (checkout : Checkout) (prepend : Bool) (script : String) (path : List String) :
    List String :=
  ((checkout.neededFolders script).map checkout.folderText).foldl (extend prepend) path

end Checkout

end ListingFilter
