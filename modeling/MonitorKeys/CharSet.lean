/-!
# Sets of characters

Patterns ask for one character out of a set.  A set is built from ranges of characters, and from
other sets; the classes that have a name hold ASCII characters only.
-/

namespace MonitorKeys

/-- A set of characters. -/
inductive CharSet where
  /-- The characters of some ranges, whose ends belong to them. -/
  | ranges (rs : List (Char × Char))
  /-- The characters of either set. -/
  | union (a b : CharSet)
  /-- The characters of both sets. -/
  | inter (a b : CharSet)
  /-- All other characters. -/
  | complement (a : CharSet)
  /-- The characters of a set in upper and lower case. -/
  | anyCase (a : CharSet)
  deriving DecidableEq, Repr

namespace CharSet

/-- Whether a character is in a set. -/
def contains : CharSet → Char → Bool
  | ranges rs, c => rs.any fun r => r.1 ≤ c && c ≤ r.2
  | union a b, c => a.contains c || b.contains c
  | inter a b, c => a.contains c && b.contains c
  | complement a, c => !a.contains c
  | anyCase a, c => a.contains c || a.contains c.toLower || a.contains c.toUpper

/-- The set without characters. -/
def none : CharSet :=
  ranges []

/-- The set of all characters. -/
def all : CharSet :=
  complement none

/-- The set of one character. -/
def single (c : Char) : CharSet :=
  ranges [(c, c)]

/-- The set of some characters. -/
def ofList (cs : List Char) : CharSet :=
  ranges (cs.map fun c => (c, c))

/-- The characters of the first set that are not in the second. -/
def diff (a b : CharSet) : CharSet :=
  inter a (complement b)

/-- The ASCII digits. -/
def digits : CharSet :=
  ranges [('0', '9')]

/-- The ASCII letters and digits, and the underscore. -/
def wordChars : CharSet :=
  ranges [('0', '9'), ('A', 'Z'), ('_', '_'), ('a', 'z')]

/-- The ASCII blanks and line ends. -/
def blanks : CharSet :=
  ranges [('\t', '\r'), (' ', ' ')]

/-- The classes that have a name. -/
def named : List (String × CharSet) :=
  [("alnum", ranges [('0', '9'), ('A', 'Z'), ('a', 'z')]),
   ("alpha", ranges [('A', 'Z'), ('a', 'z')]),
   ("blank", ranges [('\t', '\t'), (' ', ' ')]),
   ("cntrl", ranges [('\x00', '\x1f'), ('\x7f', '\x7f')]),
   ("digit", digits),
   ("graph", ranges [('!', '~')]),
   ("lower", ranges [('a', 'z')]),
   ("print", ranges [(' ', '~')]),
   ("punct", ranges [('!', '/'), (':', '@'), ('[', '\x60'), ('\x7b', '~')]),
   ("space", blanks),
   ("upper", ranges [('A', 'Z')]),
   ("xdigit", ranges [('0', '9'), ('A', 'F'), ('a', 'f')])]

/-- The class of a name. -/
def ofName? (name : String) : Option CharSet :=
  named.lookup name

end CharSet

end MonitorKeys
