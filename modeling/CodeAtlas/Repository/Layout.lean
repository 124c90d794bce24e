import CodeAtlas.Repository.Basic

/-!
# The files of a repository

What a new repository consists of, and the references that its commits leave behind. The
objects of the commits are not written.
-/

namespace CodeAtlas.Repository

/-- The text of the options file of a new repository. -/
def optionsText (bare : Bool) : String :=
  "[core]\n\tbare = " ++ (if bare then "true" else "false")
    ++ "\n\trepositoryformatversion = 0\n\tfilemode = true\n"
    ++ (if bare then "" else "\tlogallrefupdates = true\n")

/-- The text of the sample in a new repository's directory of hooks. -/
def hookSample : String :=
  "#!/bin/sh\n#\n"
    ++ "# Place appropriately named executable hook scripts into this directory\n"
    ++ "# to intercept various actions that git takes.  See `git help hooks` for\n"
    ++ "# more information.\n"

/-- The text of the exclude file of a new repository. -/
def excludeText : String :=
  "# File patterns to ignore; see `git help ignore` for more information.\n"
    ++ "# Lines that start with '#' are comments.\n"

/-- The text of the description of a new repository. -/
def descriptionText : String :=
  "Unnamed repository; edit this file 'description' to name the repository.\n"

/-- The entries of a new repository, by their path from its directory. -/
def layout (bare : Bool) : List (String × Entry) :=
  let file (text : String) : Entry := .file text.toUTF8
  [("HEAD", file ("ref: refs/heads/" ++ branch ++ "\n")),
   ("config", file (optionsText bare)),
   ("description", file descriptionText),
   ("hooks/README.sample", file hookSample),
   ("info/exclude", file excludeText),
   ("objects/info", .directory []), ("objects/pack", .directory []),
   ("refs/heads", .directory []), ("refs/tags", .directory [])]

/-- The references that commits leave behind: the branch at the last of them, and tags. A
tag that was given again has moved to the later commit. -/
def references (commits : List Commit) : List (String × String) :=
  let tags := commits.zipIdx.filterMap fun (commit, position) =>
    commit.tag.map fun tag => ("refs/tags/" ++ tag, id position)
  if commits.isEmpty then tags
  else tags ++ [("refs/heads/" ++ branch, id (commits.length - 1))]

end CodeAtlas.Repository

namespace CodeAtlas

/-- Writes the files of a repository with some commits into a directory. -/
def FileSystem.writeRepository (fs : FileSystem) (path : String) (bare : Bool)
    (commits : List Commit) : FileSystem :=
  let references := (Repository.references commits).map fun reference =>
    (reference.1, Entry.file (reference.2 ++ "\n").toUTF8)
  (Repository.layout bare ++ references).foldl
    (fun fs entry => fs.write (Path.join path entry.1) entry.2) fs

end CodeAtlas
