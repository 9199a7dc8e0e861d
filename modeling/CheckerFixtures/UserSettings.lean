/-
**Settings of a user.**

The ignore rules of a user are in the file that the settings of the version control name. These
are in the home directory or, if they name none there, in the directory for settings; a file that
no settings name has a fixed name beside them. A relative name leads from the working directory.

* `excludesFile?`: the file with the rules;
* `userRules`: the rules as they are read in a working directory.
-/

import CheckerFixtures.ConfigSource
import CheckerFixtures.Ignore.UserRules

namespace CheckerFixtures.Surroundings

variable (surroundings : Surroundings)

def read? (path : Path) : Option (List UInt8) :=
  (surroundings.tree.read surroundings.workingDirectory path).toOption

/-- The directory for the settings of the version control. -/
def gitDirectory? : Option Path :=
  (surroundings.settingsDirectory?.or (surroundings.home?.map fun home => home.child ".config")).map
    fun directory => directory.child "git"

/-- The files with settings, the first that names a file with rules counts. -/
def gitSettings : List Path :=
  (surroundings.home?.map fun home => home.child ".gitconfig").toList ++
    (surroundings.gitDirectory?.map fun directory => directory.child "config").toList

/-- The file with the ignore rules of the user. -/
def excludesFile? : Option Path :=
  (surroundings.gitSettings.findSome? fun path =>
    (surroundings.read? path).bind (Ignore.excludesFile? surroundings.home?)).or
    (surroundings.gitDirectory?.map fun directory => directory.child "ignore")

/-- The ignore rules of the user. -/
def userRules : Ignore.UserRules where
  base := surroundings.workingPath
  rules := ((surroundings.excludesFile?.bind surroundings.read?).map Ignore.rulesOf).getD []

end CheckerFixtures.Surroundings
