/-!
# Faults of the operating system

A fault is a number; its text is a fixed wording for the number, with the number behind it.
-/

namespace ScatterGather

/-- A fault of the operating system. -/
structure SystemFault where
  number : Nat
deriving DecidableEq, Inhabited, Repr

namespace SystemFault

/-- Something that is a directory cannot be read. -/
def isDirectory : SystemFault := ⟨21⟩

/-- Somebody else uses the address. -/
def addressInUse : SystemFault := ⟨98⟩

/-- There is no route to the network. -/
def noRoute : SystemFault := ⟨101⟩

/-- The wordings of the faults that files and connections meet. -/
def wordings : List (Nat × String) :=
  [(1, "Operation not permitted"), (2, "No such file or directory"), (5, "Input/output error"),
   (13, "Permission denied"), (20, "Not a directory"), (21, "Is a directory"),
   (22, "Invalid argument"), (24, "Too many open files"), (32, "Broken pipe"),
   (98, "Address already in use"), (99, "Cannot assign requested address"),
   (100, "Network is down"), (101, "Network is unreachable"),
   (103, "Software caused connection abort"), (104, "Connection reset by peer"),
   (110, "Connection timed out"), (111, "Connection refused"), (112, "Host is down"),
   (113, "No route to host")]

/-- The text of a fault. -/
def text (f : SystemFault) : String :=
  (wordings.lookup f.number).getD s!"Unknown error {f.number}" ++ s!" (os error {f.number})"

end SystemFault

end ScatterGather
