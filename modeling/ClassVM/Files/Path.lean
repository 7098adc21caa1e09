/-! # Paths of class files

Paths are texts with `/` between their parts and are never tidied up. A class is named either by
the path of its file or by its name on a class path. -/

namespace ClassVM.Files

/-- The end of the name of every class file. -/
def classSuffix : String := ".class"

/-- One path below another. An absolute path stands by itself, and a separator is added only where
there is none. -/
def joinPath (base path : String) : String :=
  if path.toList.head? = some '/' then path
  else if base = "" || base.toList.getLast? = some '/' then base ++ path
  else base ++ "/" ++ path

/-- The file of a class on a class path. -/
def classFilePath (classPath name : String) : String :=
  joinPath classPath (name ++ classSuffix)

/-- The file that a class is read from: a name that is already the name of a class file is taken as
a path of its own. -/
def locate (classPath name : String) : String :=
  if classSuffix.toList.isSuffixOf name.toList then name else classFilePath classPath name

end ClassVM.Files
