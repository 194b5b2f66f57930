import Fleet.Shell.Calculation
import Fleet.Shell.DateUtility
import Fleet.Shell.DigestUtility
import Fleet.Shell.Factoring
import Fleet.Shell.FileUtility
import Fleet.Shell.LineEditor
import Fleet.Shell.LineSearch
import Fleet.Shell.LineUtility
import Fleet.Shell.Magnitude
import Fleet.Shell.Paragraph
import Fleet.Shell.Sorting
import Fleet.Shell.StatusUtility
import Fleet.Shell.TabStop
import Fleet.Shell.TextUtility
import Fleet.Shell.Transliteration

namespace Fleet.Shell

/-! # The utilities by name -/

namespace Utility

/-- The programs that are always there and start no others. -/
def all : List (String × Utility) :=
  [("true", TextUtility.ends "true" "success" 0),
    ("false", TextUtility.ends "false" "failure" 1),
    ("sleep", TextUtility.sleep), ("sync", fun i => i.ends 0),
    ("echo", TextUtility.echo), ("printf", TextUtility.printf), ("yes", TextUtility.yes),
    ("seq", TextUtility.sequence), ("basename", TextUtility.baseName),
    ("dirname", TextUtility.directoryName), ("test", TextUtility.test),
    ("[", TextUtility.bracket), ("printenv", TextUtility.printVariables),
    ("pwd", TextUtility.workingDirectory), ("uname", TextUtility.systemName),
    ("id", TextUtility.identity), ("whoami", TextUtility.userName),
    ("arch", TextUtility.machine), ("tty", TextUtility.terminal),
    ("base64", TextUtility.base64), ("od", TextUtility.dump), ("cmp", TextUtility.compare),
    ("expr", Calculation.run),
    ("cat", LineUtility.concatenate), ("tac", LineUtility.backwards),
    ("rev", LineUtility.mirrored), ("head", LineUtility.oneEnd false),
    ("tail", LineUtility.oneEnd true), ("wc", LineUtility.count), ("cut", LineUtility.cutOut),
    ("paste", LineUtility.paste), ("fold", LineUtility.fold), ("nl", LineUtility.numberLines),
    ("tr", Transliteration.run), ("sort", Sorting.run), ("uniq", Sorting.unique),
    ("comm", Sorting.common), ("sed", LineEditor.run), ("grep", LineSearch.run),
    ("egrep", LineSearch.runWith "-E"), ("fgrep", LineSearch.runWith "-F"),
    ("touch", FileUtility.touch), ("mkdir", FileUtility.makeDirectory),
    ("rmdir", FileUtility.removeDirectory), ("rm", FileUtility.remove),
    ("unlink", FileUtility.unlink), ("cp", FileUtility.copy), ("mv", FileUtility.move),
    ("ln", FileUtility.link), ("chmod", FileUtility.changeMode),
    ("truncate", FileUtility.truncate), ("ls", FileUtility.list),
    ("readlink", FileUtility.readLink), ("realpath", FileUtility.realPath),
    ("tee", FileUtility.copyInput),
    ("md5sum", DigestUtility.run "md5"), ("sha1sum", DigestUtility.run "sha1"),
    ("sha224sum", DigestUtility.run "sha224"), ("sha256sum", DigestUtility.run "sha256"),
    ("sha384sum", DigestUtility.run "sha384"), ("sha512sum", DigestUtility.run "sha512"),
    ("b2sum", DigestUtility.runBlake), ("cksum", DigestUtility.runAny),
    ("sum", DigestUtility.runSum), ("date", DateUtility.run),
    ("stat", StatusUtility.run), ("expand", TabStop.runExpand),
    ("unexpand", TabStop.runUnexpand), ("fmt", Paragraph.run), ("factor", Factoring.run),
    ("numfmt", Magnitude.run)]

/-- The program of a name. -/
def ofName? (name : String) : Option Utility := all.lookup name

end Utility

end Fleet.Shell
