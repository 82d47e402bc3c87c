import BuildLog.Format.AnyLint
import BuildLog.Format.CiJob
import BuildLog.Format.CompilerText
import BuildLog.Format.Eslint
import BuildLog.Format.Flake8
import BuildLog.Format.JsonLines
import BuildLog.Format.Junit
import BuildLog.Format.LogRecord
import BuildLog.Format.Logfmt
import BuildLog.Format.Prefixed
import BuildLog.Format.Pytest
import BuildLog.Format.Syslog

/-! The formats that are always known. -/
namespace BuildLog.Format

variable [Host]

/-- Their order decides between formats of equal priority. -/
def builtins : List Format :=
  [CiJob.format, Junit.format, Eslint.format, CompilerText.format, Flake8.format, Pytest.format,
    JsonLines.format, Logfmt.format, Syslog.format, LogRecord.format, Prefixed.format,
    AnyLint.format]

end BuildLog.Format
