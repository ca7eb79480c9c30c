import GossipNames.Datastore
import GossipNames.Node.Launch
import Std.Time.DateTime.Timestamp

/-! The command that runs a node: it reads the files that its options name, starts, writes what the
start has changed, and stays up until its input ends. -/

namespace GossipNames.Console

def usage : String :=
  "Usage: ipns_node [OPTIONS]\n\n" ++ "\n".intercalate [
    "  -a, --address <ADDRESS>      address to listen at",
    "  -p, --port <PORT>            port to listen at",
    "  -b, --bootnodes <BOOTNODES>  addresses of bootnodes, or a file listing them",
    "  -c, --config <CONFIG>        file with name system settings",
    "      --datastore <FILE>       file for published records",
    "      --keystore <DIRECTORY>   directory of keys to republish",
    "      --identity <FILE>        key of the node, created if missing",
    "      --metrics-address <ADDRESS>",
    "      --metrics-port <PORT>    port at which the metrics are shown",
    "      --publish <PATH>         path to publish under the node's identity",
    "  -w, --watch <NAME>           name to follow",
    "  -h, --help                   print this help",
    "  -V, --version                print the version"] ++ "\n"

def version : String := "ipns_node 0.1.0\n"

/-- What stands at a path. Whatever is there and cannot be read counts as a directory. -/
def probe (path : String) : IO (Option FileContent) := do
  try
    let content := (← IO.FS.readBinFile path).data.toList
    match RecordsFile.decode? content with
    | some store => return some (.records store)
    | none => return some (.bytes content)
  catch
    | .noFileOrDirectory .. => return none
    | _ => return some .directory

def readFiles (options : NodeOptions) : IO Files := do
  let mut files : Files := .empty
  for path in options.paths do
    if let some content ← probe path then files := files.put path content
  return files

def writeFile (path : String) : FileContent → IO Unit
  | .bytes content => IO.FS.writeBinFile path ⟨content.toArray⟩
  | .records store => IO.FS.writeBinFile path ⟨(RecordsFile.encode store).toArray⟩
  | .directory => IO.FS.createDirAll path

/-- Writes the files that are not as they were. -/
def writeFiles (before after : Files) : IO Unit := do
  for (path, content) in after.entries do
    if before.get? path ≠ some content then writeFile path content

def machine : IO (Option Machine) := do
  let nanoseconds := (← Std.Time.Timestamp.now).toNanosecondsSinceUnixEpoch.val
  let seed ← IO.getRandomBytes 32
  return do
    let now ← Timestamp.ofParts? (nanoseconds / 1000000000) (nanoseconds % 1000000000).toNat
    let fresh ← (Keypair.ofEd25519Seed seed.data.toList).toOption
    return { now, fresh, listens := fun _ => true }

/-- Waits until the input ends. -/
partial def waitForEnd (input : IO.FS.Stream) : IO Unit := do
  unless (← input.read 1).isEmpty do waitForEnd input

def run (options : NodeOptions) : IO UInt32 := do
  let some machine ← machine | return 1
  let before ← readFiles options
  let (launched, after) := options.launch machine before
  writeFiles before after
  match launched with
  | .error error =>
    IO.eprintln ("Error: " ++ error.message)
    return 1
  | .ok _ =>
    waitForEnd (← IO.getStdin)
    return 0

end GossipNames.Console

def main (words : List String) : IO UInt32 := do
  match GossipNames.NodeOptions.parse words with
  | .help =>
    IO.print GossipNames.Console.usage
    return 0
  | .version =>
    IO.print GossipNames.Console.version
    return 0
  | .refused =>
    IO.eprint GossipNames.Console.usage
    return 2
  | .run options => GossipNames.Console.run options
