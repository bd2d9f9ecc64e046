namespace ImageBuild.Context

/-!
# Remote contexts — contexts that the daemon fetches itself
-/

/-- What the location of a remote context starts with. -/
def remoteMarks : List String := ["http://", "https://", "git://", "github.com/", "git@"]

/-- Whether a context is remote. -/
def isRemote (context : String) : Bool :=
  remoteMarks.any fun mark => mark.toList.isPrefixOf context.toList

end ImageBuild.Context
