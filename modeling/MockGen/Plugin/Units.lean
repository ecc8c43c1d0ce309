import MockGen.Text.Basic

/-!
# Units without a plugin

The units that can be loaded besides those of the plugins.  None of them holds a plugin.
-/

namespace MockGen.Plugin

def ownUnits : List String :=
  ["cmock", "cmock_config", "cmock_file_writer", "cmock_generator", "cmock_generator_utils",
    "cmock_header_parser", "cmock_plugin_manager", "cmock_unityhelper_parser", "cmock_version",
    "unity_type_sanitizer"]

def sharedUnits : String := "
  abc aifc argparse array ast asynchat asyncore atexit audioop base64 bdb binascii bisect
  builtins bz2 calendar cgi cgitb chunk cmath cmd code codecs codeop colorsys compileall
  configparser contextlib contextvars copy copyreg crypt csv dataclasses datetime decimal
  difflib dis doctest enum errno faulthandler fcntl filecmp fileinput fnmatch fractions ftplib
  functools gc genericpath getopt getpass gettext glob graphlib grp gzip hashlib heapq hmac
  imaplib imghdr imp inspect io ipaddress itertools keyword linecache locale lzma mailbox
  mailcap marshal math mimetypes mmap modulefinder netrc nntplib ntpath nturl2path numbers
  opcode operator optparse os pathlib pdb pickle pickletools pipes pkgutil platform plistlib
  poplib posix posixpath pprint profile pstats pty pwd py_compile pyclbr pydoc pyexpat queue
  quopri random readline reprlib resource rlcompleter runpy sched secrets select selectors
  shelve shlex shutil signal site smtpd smtplib sndhdr socket socketserver spwd sre_compile
  sre_constants sre_parse ssl stat statistics string stringprep struct subprocess sunau symtable
  sys sysconfig syslog tabnanny tarfile telnetlib tempfile termios textwrap threading time
  timeit token tokenize trace traceback tracemalloc tty types typing unicodedata uu uuid
  warnings wave weakref webbrowser xdrlib zipapp zipfile zipimport zlib"

def packages : String := "
  asyncio collections concurrent ctypes curses dbm distutils email encodings ensurepip html http
  importlib json lib2to3 logging multiprocessing pydoc_data re sqlite3 tomllib unittest urllib
  venv wsgiref xml xmlrpc yaml zoneinfo"

private def listed (units unit : String) : Bool :=
  (Text.words units.toList).contains unit.toList

def isPackage (unit : String) : Bool :=
  listed packages unit

def isOtherUnit (unit : String) : Bool :=
  ownUnits.contains unit || listed sharedUnits unit || isPackage unit

end MockGen.Plugin
