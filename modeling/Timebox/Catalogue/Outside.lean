import Timebox.Catalogue.Basic

/-!
# Modules outside the runner

The modules that the runner's own modules use, with the names that they offer to others.
-/

namespace Timebox.Catalogue

/-- The module `argparse`. -/
def argparseModule : ModuleEntry :=
  { path := "argparse"
    attributes :=
      [(.value "function", words ["ngettext"]),
       (.value "list", words ["__all__"]),
       (.value "str", words
         ["ONE_OR_MORE OPTIONAL PARSER REMAINDER SUPPRESS ZERO_OR_MORE __version__"]),
       (.class "argparse.Action", words ["Action"]),
       (.class "argparse.ArgumentDefaultsHelpFormatter", words ["ArgumentDefaultsHelpFormatter"]),
       (.class "argparse.ArgumentError", words ["ArgumentError"]),
       (.class "argparse.ArgumentParser", words ["ArgumentParser"]),
       (.class "argparse.ArgumentTypeError", words ["ArgumentTypeError"]),
       (.class "argparse.BooleanOptionalAction", words ["BooleanOptionalAction"]),
       (.class "argparse.FileType", words ["FileType"]),
       (.class "argparse.HelpFormatter", words ["HelpFormatter"]),
       (.class "argparse.MetavarTypeHelpFormatter", words ["MetavarTypeHelpFormatter"]),
       (.class "argparse.Namespace", words ["Namespace"]),
       (.class "argparse.RawDescriptionHelpFormatter", words ["RawDescriptionHelpFormatter"]),
       (.class "argparse.RawTextHelpFormatter", words ["RawTextHelpFormatter"]),
       (.module "warnings", words ["warnings"])] }

/-- The module `importlib`. -/
def importlibModule : ModuleEntry :=
  { path := "importlib", isPackage := true
    attributes :=
      [(.value "function", words ["find_loader import_module invalidate_caches reload"]),
       (.value "list", words ["__all__"]),
       (.module "sys", words ["sys"]),
       (.module "warnings", words ["warnings"])] }

/-- The module `json`. -/
def jsonModule : ModuleEntry :=
  { path := "json", isPackage := true
    attributes :=
      [(.value "function", words ["detect_encoding dump dumps load loads"]),
       (.value "list", words ["__all__"]),
       (.value "str", words ["__version__"]),
       (.class "json.decoder.JSONDecodeError", words ["JSONDecodeError"]),
       (.class "json.decoder.JSONDecoder", words ["JSONDecoder"]),
       (.class "json.encoder.JSONEncoder", words ["JSONEncoder"]),
       (.module "codecs", words ["codecs"]),
       (.module "json.decoder", words ["decoder"]),
       (.module "json.encoder", words ["encoder"]),
       (.module "json.scanner", words ["scanner"])] }

/-- The module `logging`. -/
def loggingModule : ModuleEntry :=
  { path := "logging", isPackage := true
    attributes :=
      [(.value "bool", words ["logMultiprocessing logProcesses logThreads raiseExceptions"]),
       (.value "function", words
         ["addLevelName basicConfig captureWarnings critical currentframe debug disable",
          "error exception fatal getLevelName getLevelNamesMapping getLogRecordFactory",
          "getLogger getLoggerClass info log makeLogRecord setLogRecordFactory",
          "setLoggerClass shutdown warn warning"]),
       (.value "int", words ["CRITICAL DEBUG ERROR FATAL INFO NOTSET WARN WARNING"]),
       (.value "list", words ["__all__"]),
       (.value "logging.RootLogger", words ["root"]),
       (.value "logging._StderrHandler", words ["lastResort"]),
       (.value "str", words ["BASIC_FORMAT __version__"]),
       (.class "logging.BufferingFormatter", words ["BufferingFormatter"]),
       (.class "logging.FileHandler", words ["FileHandler"]),
       (.class "logging.Filter", words ["Filter"]),
       (.class "logging.Filterer", words ["Filterer"]),
       (.class "logging.Formatter", words ["Formatter"]),
       (.class "logging.Handler", words ["Handler"]),
       (.class "logging.LogRecord", words ["LogRecord"]),
       (.class "logging.Logger", words ["Logger"]),
       (.class "logging.LoggerAdapter", words ["LoggerAdapter"]),
       (.class "logging.Manager", words ["Manager"]),
       (.class "logging.NullHandler", words ["NullHandler"]),
       (.class "logging.PercentStyle", words ["PercentStyle"]),
       (.class "logging.PlaceHolder", words ["PlaceHolder"]),
       (.class "logging.RootLogger", words ["RootLogger"]),
       (.class "logging.StrFormatStyle", words ["StrFormatStyle"]),
       (.class "logging.StreamHandler", words ["StreamHandler"]),
       (.class "logging.StringTemplateStyle", words ["StringTemplateStyle"]),
       (.class "string.Template", words ["Template"]),
       (.class "types.GenericAlias", words ["GenericAlias"]),
       (.module "atexit", words ["atexit"]),
       (.module "collections", words ["collections"]),
       (.module "io", words ["io"]),
       (.module "os", words ["os"]),
       (.module "re", words ["re"]),
       (.module "sys", words ["sys"]),
       (.module "threading", words ["threading"]),
       (.module "time", words ["time"]),
       (.module "traceback", words ["traceback"]),
       (.module "warnings", words ["warnings"]),
       (.module "weakref", words ["weakref"])] }

/-- The module `os`. -/
def osModule : ModuleEntry :=
  { path := "os"
    attributes :=
      [(.value "NoneType", words ["altsep"]),
       (.value "bool", words ["supports_bytes_environ"]),
       (.value "builtin_function_or_method", words
         ["WCOREDUMP WEXITSTATUS WIFCONTINUED WIFEXITED WIFSIGNALED WIFSTOPPED WSTOPSIG",
          "WTERMSIG abort access chdir chmod chown chroot close closerange confstr cpu_count",
          "ctermid device_encoding dup dup2 eventfd eventfd_read eventfd_write execv execve",
          "fchdir fchmod fchown fdatasync fork forkpty fpathconf fspath fstat fstatvfs fsync",
          "ftruncate get_blocking get_inheritable get_terminal_size getcwd getcwdb getegid",
          "geteuid getgid getgrouplist getgroups getloadavg getlogin getpgid getpgrp getpid",
          "getppid getpriority getresgid getresuid getsid getuid getxattr initgroups isatty",
          "kill killpg lchown link listdir listxattr lockf login_tty lseek lstat major",
          "makedev minor mkdir mkfifo mknod nice open openpty pathconf pipe pipe2",
          "posix_fadvise posix_fallocate posix_spawn posix_spawnp pread preadv putenv pwrite",
          "pwritev read readlink readv register_at_fork remove removexattr rename replace",
          "rmdir scandir sched_get_priority_max sched_get_priority_min sched_getaffinity",
          "sched_getparam sched_getscheduler sched_rr_get_interval sched_setaffinity",
          "sched_setparam sched_setscheduler sched_yield sendfile set_blocking",
          "set_inheritable setegid seteuid setgid setgroups setpgid setpgrp setpriority",
          "setregid setresgid setresuid setreuid setsid setuid setxattr splice stat statvfs",
          "strerror symlink sync sysconf system tcgetpgrp tcsetpgrp times truncate ttyname",
          "umask uname unlink unsetenv urandom utime wait wait3 wait4 waitid waitpid",
          "waitstatus_to_exitcode write writev"]),
       (.value "dict", words ["confstr_names pathconf_names sysconf_names"]),
       (.value "function", words
         ["execl execle execlp execlpe execvp execvpe fdopen fsdecode fsencode fwalk",
          "get_exec_path getenv getenvb makedirs popen removedirs renames spawnl spawnle",
          "spawnlp spawnlpe spawnv spawnve spawnvp spawnvpe walk"]),
       (.value "int", words
         ["CLD_CONTINUED CLD_DUMPED CLD_EXITED CLD_KILLED CLD_STOPPED CLD_TRAPPED",
          "EFD_CLOEXEC EFD_NONBLOCK EFD_SEMAPHORE EX_CANTCREAT EX_CONFIG EX_DATAERR EX_IOERR",
          "EX_NOHOST EX_NOINPUT EX_NOPERM EX_NOUSER EX_OK EX_OSERR EX_OSFILE EX_PROTOCOL",
          "EX_SOFTWARE EX_TEMPFAIL EX_UNAVAILABLE EX_USAGE F_LOCK F_OK F_TEST F_TLOCK",
          "F_ULOCK NGROUPS_MAX O_ACCMODE O_APPEND O_ASYNC O_CLOEXEC O_CREAT O_DIRECT",
          "O_DIRECTORY O_DSYNC O_EXCL O_FSYNC O_LARGEFILE O_NDELAY O_NOATIME O_NOCTTY",
          "O_NOFOLLOW O_NONBLOCK O_PATH O_RDONLY O_RDWR O_RSYNC O_SYNC O_TMPFILE O_TRUNC",
          "O_WRONLY POSIX_FADV_DONTNEED POSIX_FADV_NOREUSE POSIX_FADV_NORMAL",
          "POSIX_FADV_RANDOM POSIX_FADV_SEQUENTIAL POSIX_FADV_WILLNEED POSIX_SPAWN_CLOSE",
          "POSIX_SPAWN_DUP2 POSIX_SPAWN_OPEN PRIO_PGRP PRIO_PROCESS PRIO_USER P_ALL P_NOWAIT",
          "P_NOWAITO P_PGID P_PID P_WAIT RTLD_DEEPBIND RTLD_GLOBAL RTLD_LAZY RTLD_LOCAL",
          "RTLD_NODELETE RTLD_NOLOAD RTLD_NOW R_OK SCHED_BATCH SCHED_FIFO SCHED_IDLE",
          "SCHED_OTHER SCHED_RESET_ON_FORK SCHED_RR SEEK_CUR SEEK_DATA SEEK_END SEEK_HOLE",
          "SEEK_SET SPLICE_F_MORE SPLICE_F_MOVE SPLICE_F_NONBLOCK ST_APPEND ST_MANDLOCK",
          "ST_NOATIME ST_NODEV ST_NODIRATIME ST_NOEXEC ST_NOSUID ST_RDONLY ST_RELATIME",
          "ST_SYNCHRONOUS ST_WRITE TMP_MAX WCONTINUED WEXITED WNOHANG WNOWAIT WSTOPPED",
          "WUNTRACED W_OK XATTR_CREATE XATTR_REPLACE XATTR_SIZE_MAX X_OK"]),
       (.value "list", words ["__all__"]),
       (.value "os._Environ", words ["environ environb"]),
       (.value "set", words
         ["supports_dir_fd supports_effective_ids supports_fd supports_follow_symlinks"]),
       (.value "str", words ["curdir defpath devnull extsep linesep name pardir pathsep sep"]),
       (.class "OSError", words ["error"]),
       (.class "collections.abc.Mapping", words ["Mapping"]),
       (.class "collections.abc.MutableMapping", words ["MutableMapping"]),
       (.class "os.PathLike", words ["PathLike"]),
       (.class "os.stat_result", words ["stat_result"]),
       (.class "os.statvfs_result", words ["statvfs_result"]),
       (.class "os.terminal_size", words ["terminal_size"]),
       (.class "posix.DirEntry", words ["DirEntry"]),
       (.class "posix.sched_param", words ["sched_param"]),
       (.class "posix.times_result", words ["times_result"]),
       (.class "posix.uname_result", words ["uname_result"]),
       (.class "posix.waitid_result", words ["waitid_result"]),
       (.class "types.GenericAlias", words ["GenericAlias"]),
       (.module "abc", words ["abc"]),
       (.module "posixpath", words ["path"]),
       (.module "stat", words ["st"]),
       (.module "sys", words ["sys"])] }

/-- The module `re`. -/
def reModule : ModuleEntry :=
  { path := "re", isPackage := true
    attributes :=
      [(.value "function", words
         ["compile escape findall finditer fullmatch match purge search split sub subn",
          "template"]),
       (.value "list", words ["__all__"]),
       (.value "re.RegexFlag", words
         ["A ASCII DEBUG DOTALL I IGNORECASE L LOCALE M MULTILINE NOFLAG S T TEMPLATE U",
          "UNICODE VERBOSE X"]),
       (.value "str", words ["__version__"]),
       (.class "re.Match", words ["Match"]),
       (.class "re.Pattern", words ["Pattern"]),
       (.class "re.RegexFlag", words ["RegexFlag"]),
       (.class "re.Scanner", words ["Scanner"]),
       (.class "re.error", words ["error"]),
       (.module "copyreg", words ["copyreg"]),
       (.module "enum", words ["enum"]),
       (.module "functools", words ["functools"])] }

/-- The module `sys`. -/
def sysModule : ModuleEntry :=
  { path := "sys"
    attributes :=
      [(.value "NoneType", words ["pycache_prefix"]),
       (.value "_io.TextIOWrapper", words ["stderr stdin stdout"]),
       (.value "bool", words ["dont_write_bytecode"]),
       (.value "builtin_function_or_method", words
         ["addaudithook audit breakpointhook call_tracing displayhook exc_info excepthook",
          "exception exit get_asyncgen_hooks get_coroutine_origin_tracking_depth",
          "get_int_max_str_digits getallocatedblocks getdefaultencoding getdlopenflags",
          "getfilesystemencodeerrors getfilesystemencoding getprofile getrecursionlimit",
          "getrefcount getsizeof getswitchinterval gettrace intern is_finalizing",
          "set_asyncgen_hooks set_coroutine_origin_tracking_depth set_int_max_str_digits",
          "setdlopenflags setprofile setrecursionlimit setswitchinterval settrace",
          "unraisablehook"]),
       (.value "dict", words ["modules path_importer_cache"]),
       (.value "frozenset", words ["stdlib_module_names"]),
       (.value "int", words ["api_version hexversion maxsize maxunicode"]),
       (.value "list", words ["argv meta_path orig_argv path path_hooks warnoptions"]),
       (.value "str", words
         ["abiflags base_exec_prefix base_prefix byteorder exec_prefix executable",
          "float_repr_style platform platlibdir prefix version"]),
       (.value "sys.flags", words ["flags"]),
       (.value "sys.float_info", words ["float_info"]),
       (.value "sys.hash_info", words ["hash_info"]),
       (.value "sys.int_info", words ["int_info"]),
       (.value "sys.thread_info", words ["thread_info"]),
       (.value "sys.version_info", words ["version_info"]),
       (.value "tuple", words ["builtin_module_names"]),
       (.value "types.SimpleNamespace", words ["implementation"])] }

/-- The module `yaml`. -/
def yamlModule : ModuleEntry :=
  { path := "yaml", isPackage := true
    attributes :=
      submodules "yaml" (words
        ["composer constructor cyaml dumper emitter error events loader nodes parser reader",
         "representer resolver scanner serializer tokens"]) ++
      classesOf "yaml.error" (words ["Mark MarkedYAMLError YAMLError"]) ++
      classesOf "yaml.loader" (words ["BaseLoader FullLoader Loader SafeLoader UnsafeLoader"]) ++
      classesOf "yaml.dumper" (words ["BaseDumper Dumper SafeDumper"]) ++
      classesOf "yaml.nodes" (words
        ["CollectionNode MappingNode Node ScalarNode SequenceNode"]) ++
      classesOf "yaml" (words ["YAMLObject YAMLObjectMetaclass"]) ++
      [(.value "bool", words ["__with_libyaml__"]),
       (.value "function", words
         ["add_constructor add_implicit_resolver add_multi_constructor add_multi_representer",
          "add_path_resolver add_representer compose compose_all dump dump_all emit full_load",
          "full_load_all load load_all parse safe_dump safe_dump_all safe_load safe_load_all scan",
          "serialize serialize_all unsafe_load unsafe_load_all warnings"]),
       (.value "str", words ["__version__"])] }

/-- The modules outside the runner. -/
def outsideModules : List ModuleEntry :=
  [argparseModule, importlibModule, jsonModule, loggingModule, osModule, reModule, sysModule,
   yamlModule]

end Timebox.Catalogue
