import AccessWeave.Host.Tree

/-!
What every host has before anything is put there: the usual directories, the programs, and the
devices, the outputs of the command among them. The programs are kept in one directory, and the
older places for them are links to it.
-/

namespace AccessWeave

def programDirectory : Location := ["usr", "bin"]

def programNames : List String := ["cat", "dash", "false", "sh", "true"]

/-- Where a program finds what its channels lead to, each by its number. -/
def channelDirectory : Location := ["proc", "self", "fd"]

def channelLocation (channel : Nat) : Location := channelDirectory ++ [toString channel]

def standardDirectories : List Location :=
  [["boot"], ["dev"], ["dev", "mqueue"], ["dev", "pts"], ["dev", "shm"], ["etc"], ["home"],
   ["media"], ["mnt"], ["opt"], ["proc"], ["proc", "self"], channelDirectory, ["root"], ["run"],
   ["srv"], ["sys"], ["tmp"], ["usr"], programDirectory, ["usr", "lib"], ["usr", "local"],
   ["usr", "local", "bin"], ["usr", "sbin"], ["usr", "share"], ["var"], ["var", "tmp"]]

def standardLinks : List (Location × Path) :=
  [(["bin"], ⟨"usr/bin"⟩), (["lib"], ⟨"usr/lib"⟩), (["sbin"], ⟨"usr/sbin"⟩),
   (["dev", "fd"], ⟨"/proc/self/fd"⟩), (["dev", "stdin"], ⟨"/proc/self/fd/0"⟩),
   (["dev", "stdout"], ⟨"/proc/self/fd/1"⟩), (["dev", "stderr"], ⟨"/proc/self/fd/2"⟩)]

def standardDevices : List (Location × Entry) :=
  [(["dev", "full"], .device .full), (["dev", "null"], .device .nothing),
   (["dev", "random"], .device .nothing), (["dev", "tty"], .device .terminal),
   (["dev", "urandom"], .device .nothing), (["dev", "zero"], .device .nothing),
   (channelLocation 0, .device .nothing), (channelLocation 1, .output []),
   (channelLocation 2, .output [])]

def Tree.standard (current : Location) : Tree where
  current := current
  entries :=
    standardDirectories.map (fun location => (location, .directory))
      ++ standardLinks.map (fun (location, target) => (location, .link target))
      ++ standardDevices
      ++ programNames.map (fun name => (programDirectory ++ [name], .program name))

/-- What a command has written to one of its channels by the name of a file. -/
def Tree.writtenTo (tree : Tree) (channel : Nat) : List UInt8 :=
  match tree.entryAt? (channelLocation channel) with
  | some (.output written) => written
  | _ => []

end AccessWeave
