import DocSamples.System.Host

/-!
Contract: what the command lines say about themselves and about errors.
-/

namespace DocSamples.CommandLine

def versionLine : Text :=
  "neon-doccheck 0.1.0\n".toList

/-- The word in front of an error, in bold red if colours are asked for. -/
def errorWord (colored : Bool) : Text :=
  if colored then "\x1b[1;31mError\x1b[0m".toList else "Error".toList

def errorLine (colored : Bool) (message : Text) : Text :=
  errorWord colored ++ ": ".toList ++ message ++ ['\n']

def misuseMessage (usage : Text) : Text :=
  "error: the arguments make no sense\n\n".toList ++ usage ++
    "\nFor more information, try '--help'.\n".toList

end DocSamples.CommandLine
