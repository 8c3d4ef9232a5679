import RpcTransport.Files

/-! # Where the system configuration is

A path that is given goes first, then the directory that the environment names, if it
exists, then a fixed place.
-/

namespace RpcTransport.SystemConfig

def directoryVariable : String := "FOUNDATION_CONF"

def fileName : String := "sys_conf.json"

def defaultPath : String := "/etc/foundation/conf/sys_conf.json"

def join (directory file : String) : String :=
  if directory.endsWith "/" then directory ++ file else directory ++ "/" ++ file

/-- The path of the system configuration; `directory` is the value of the environment
    variable. -/
def locate (files : Files) (explicit directory : Option String) : String :=
  match explicit with
  | some path => path
  | none =>
    match directory with
    | some directory =>
      if directory ≠ "" ∧ files.isPresent directory then join directory fileName else defaultPath
    | none => defaultPath

end RpcTransport.SystemConfig
