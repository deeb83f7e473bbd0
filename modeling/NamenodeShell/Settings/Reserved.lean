/-!
# Reserved names

A record of settings answers to more names than those of its settings, and so a value can be given
for any of them. `Reserved.ofName?` tells what such a name stands for. Most are idle: nothing reads
what is put there. The others are the record itself, its kind, its members, the check of its
settings, and one mark that nobody may write.
-/
set_option autoImplicit false

namespace NamenodeShell

/-- **What a reserved name stands for.** -/
inductive Reserved where
  /-- Something that nothing reads. -/
  | idle
  /-- The record itself, which whoever gives values for it has already named. -/
  | record
  /-- The check of the settings. -/
  | check
  /-- The kind of the record. -/
  | kind
  /-- All members of the record at once. -/
  | members
  /-- A mark that cannot be written. -/
  | fixed
  deriving DecidableEq, Repr

namespace Reserved

/-- The reserved names that stand between two underscores on either side, without these. -/
def words : List (String × Reserved) :=
  [("class", .kind), ("dict", .members), ("weakref", .fixed)] ++
    ["delattr", "dir", "doc", "eq", "format", "ge", "getattribute", "getstate", "gt", "hash",
      "init", "init_subclass", "le", "lt", "module", "ne", "new", "reduce", "reduce_ex", "repr",
      "setattr", "sizeof", "str", "subclasshook"].map (·, .idle)

/-- The reserved names. -/
def names : List (String × Reserved) :=
  [("cls", .record), ("validate", .check), ("from_env", .idle), ("from_args", .idle)] ++
    words.map fun (word, r) => ("__" ++ word ++ "__", r)

/-- **What a name stands for**, if it is reserved. -/
def ofName? (name : String) : Option Reserved :=
  names.lookup name

end Reserved

end NamenodeShell
