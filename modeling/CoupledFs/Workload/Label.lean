import CoupledFs.Error

/-! The names under which a workload counts errors. -/

namespace CoupledFs.Workload

/-- The name under which an error is counted. -/
def label (error : FsError) : String :=
  match error.kind with
  | .closed => "closed_file_system"
  | .noSuchFile => "no_such_file"
  | .notADirectory => "not_a_directory"
  | .accessDenied => "access_denied"
  | .alreadyExists => "already_exists"
  | .readOnly => "read_only"
  | _ => "other"

end CoupledFs.Workload
